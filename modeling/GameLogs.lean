import GameLogs.Argument.Document
import GameLogs.Argument.Names
import GameLogs.Environment
import GameLogs.Json.Reader
import GameLogs.Main
import GameLogs.Script
import GameLogs.Proofs.Canonical
import GameLogs.Proofs.Classification
import GameLogs.Proofs.Delivery
import GameLogs.Proofs.Copying
import GameLogs.Proofs.Entries
import GameLogs.Proofs.Indexes
import GameLogs.Proofs.Accounts
import GameLogs.Proofs.GameCounts
import GameLogs.Proofs.Games
import GameLogs.Proofs.Consolidation
import GameLogs.Proofs.Repetition
import GameLogs.Proofs.Destination
import GameLogs.Proofs.Interruption
import GameLogs.Proofs.Worker
import GameLogs.Proofs.Interleaving
import GameLogs.Proofs.Progress
import GameLogs.Proofs.Solitude
import GameLogs.Proofs.Convergence
import GameLogs.Proofs.Hidden
import GameLogs.Proofs.Identities
import GameLogs.Proofs.Survey
import GameLogs.Proofs.Prediction
import GameLogs.Proofs.Lossless
import GameLogs.Proofs.Attempts
import GameLogs.Proofs.InsertionAnswers
import GameLogs.Proofs.Indifference
import GameLogs.Proofs.Isolation
import GameLogs.Proofs.Reordering
import GameLogs.Proofs.Growth
import GameLogs.Proofs.Layers
import GameLogs.Proofs.Visibility
import GameLogs.Proofs.Grouping
import GameLogs.Proofs.Exclusion
import GameLogs.Proofs.Warnings
import GameLogs.Proofs.RenamedFields
import GameLogs.Proofs.ProgressRecords
import GameLogs.Proofs.Hashing
import GameLogs.Proofs.Obstacles
import GameLogs.Proofs.Recovery
import GameLogs.Proofs.IndexSetup
import GameLogs.Proofs.NormalForm
import GameLogs.Proofs.SurveyParts
import GameLogs.Proofs.Scripts
import GameLogs.Proofs.Ranking
import GameLogs.Proofs.DroppedKeys
import GameLogs.Proofs.SettingsFile
import GameLogs.Proofs.SampleReading
