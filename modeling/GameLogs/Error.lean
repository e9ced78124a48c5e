import GameLogs.Argument.Fault
import GameLogs.FileTree
import GameLogs.Schema
import GameLogs.Store.Fault
import GameLogs.Text.Integer
namespace GameLogs

/-! What stops an operation. -/

inductive Error where
  /-- A fault of the store, its client or the device that the operation does not expect. -/
  | store (fault : Fault)
  /-- Progress is to be shown after every zero documents. -/
  | zeroCadence
  /-- A game that is code cannot be counted under its name. -/
  | codeGame
  | missingEntry (name : String)
  | unknownIndex (name : String)
  | unformattable (kind : String)
  /-- A figure of a report is a text, whose thousands cannot be separated. -/
  | textFigure
  | integer (fault : Text.IntegerFault)
  | file (fault : FileFault)
  | argument (fault : ArgumentFault)

namespace Error

def message : Error → String
  | .store fault => fault.message
  | .zeroCadence => "integer modulo by zero"
  | .codeGame => "unhashable type: 'Code'"
  | .missingEntry name => name
  | .unknownIndex name =>
      s!"Índice '{name}' no está configurado.\nÍndices disponibles: " ++
        ", ".intercalate IndexDefinition.configuredNames
  | .unformattable kind => s!"unsupported format string passed to {kind}.__format__"
  | .textFigure => "Cannot specify ',' with 's'."
  | .integer fault => fault.message
  | .file fault => fault.message
  | .argument fault => fault.message

/-- Whether an error says that something is not there under its name. -/
def isMissing : Error → Bool
  | .store fault => fault.kind == .missingKey
  | .missingEntry _ | .unknownIndex _ => true
  | _ => false

/-- An error as it is shown to the user: the name of what is missing stands in quotes. -/
def text (error : Error) : String :=
  if error.isMissing then Text.quoted error.message else error.message

end Error
end GameLogs
