namespace GameLogs

/-! Names of the log database: the fields of a log document, the collections and the indexes. -/

namespace Field

def identity : String := "_id"

def game : String := "game"

def payload : String := "data"

def player : String := "playerId"

def event : String := "eventType"

/-- What the time at the server was called in nested documents. -/
def formerTime : String := "dbtimestamp"

def serverTime : String := "serverTimestamp"

end Field

namespace Schema

/-- The collection that unites the logs of all games. -/
def target : String := "logdata"

/-- Collections of nested documents are called by this prefix and the name of their game. -/
def logPrefix : String := "logs_"

def storePrefix : String := "system."

/-- Collections that hold no logs of a single game, the target among them. -/
def reserved : List String :=
  [target, "api_stats", "users", "sessions", "settings", "announcements"]

def standardCadence : Int := 1000

def standardDatabase : String := "stratalog"

end Schema

/-- The definition of an index: its fields, each with 1 for ascending or -1 for descending. -/
structure IndexDefinition where
  name : String
  keys : List (String × Int)
  description : String
deriving DecidableEq, Repr

namespace IndexDefinition

/-- The indexes of the target.  All begin with the game, because every query names one. -/
def configured : List IndexDefinition :=
  [{ name := "idx_game_serverTimestamp"
     keys := [(Field.game, 1), (Field.serverTime, -1)]
     description := "Logs más recientes por juego" },
   { name := "idx_game_playerId"
     keys := [(Field.game, 1), (Field.player, 1)]
     description := "Logs por jugador dentro de un juego" },
   { name := "idx_game_eventType"
     keys := [(Field.game, 1), (Field.event, 1)]
     description := "Logs por tipo de evento dentro de un juego" }]

def configuredNames : List String := configured.map IndexDefinition.name

def find? (name : String) : Option IndexDefinition :=
  configured.find? fun index => index.name == name

end IndexDefinition
end GameLogs
