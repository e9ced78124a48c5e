import GameLogs.Schema
import GameLogs.Text.Grouped
import GameLogs.Text.Padding
import GameLogs.Value.Text
namespace GameLogs

/-! What the operations tell the user.

A notice says what happened; its text and the channel it goes to are decided here alone.
-/

inductive Channel where
  | output
  | errors
deriving DecidableEq, Repr

inductive Title where
  | consolidation
  | consolidated
  | buildingIndexes
  | summary
  | indexSetup
  /-- How many of the configured indexes were built. -/
  | indexesBuilt (built configured : Nat)
  | renaming (before after : String)
  | survey
deriving DecidableEq, Repr

namespace Title

def text : Title → String
  | .consolidation => "🚀 MIGRACIÓN DE LOGS A LOGDATA"
  | .consolidated => "✅ MIGRACIÓN COMPLETADA"
  | .buildingIndexes => "🔨 CREANDO ÍNDICES"
  | .summary => "📊 RESUMEN"
  | .indexSetup => "🚀 CONFIGURACIÓN DE ÍNDICES: logdata"
  | .indexesBuilt built configured => s!"📊 Índices creados: {built}/{configured}"
  | .renaming before after => s!"🚀 RENOMBRANDO {before} → {after}"
  | .survey => "ANÁLISIS DE COLECCIONES ORIGEN"

end Title

inductive Figure where
  | documents
  | payloads
  | otherGames
  | anonymous
deriving DecidableEq, Repr

namespace Figure

def label : Figure → String
  | .documents => "Documentos"
  | .payloads => "Con payload data"
  | .otherGames => "game raíz distinto"
  | .anonymous => "Sin _id (no se migran)"

end Figure

inductive Notice where
  -- headings
  | rule
  | blank
  /-- A heading under a ruled line. -/
  | heading (title : Title)
  /-- A heading with a blank line in front. -/
  | spacedHeading (title : Title)
  -- copying of a source
  | insertionFailed (identity : Value) (source detail : String)
  | progress (source : String) (count total : Nat)
  | sourceMigrated (source : String) (migrated skipped : Nat)
  | sourceErrors (source : String) (errors : Nat)
  -- consolidation of a database
  | target
  | prefixedCount (count : Nat)
  | rawCount (count : Nat)
  | excludedCount (count : Nat)
  | targetTotal (total : Nat)
  | gameTotal (game : String) (count : Nat)
  | totalErrors (errors : Nat)
  | indexesFailed (names : List String)
  -- indexes
  | creatingIndexes
  | indexBuilt (name : String)
  | indexFailed (name detail : String)
  -- renaming
  | fieldCount (field : String) (count : Nat)
  | nothingToRename
  | renamed (count : Nat)
  | renameFailed (field detail : String)
  | renameCanBeRepeated
  | renameComplete
  | renameIncomplete
  -- connection
  | connecting
  | connected
  | notConnected (detail : String)
  | notConnectedForIndexes (detail : String)
  | noDatabase
  | databaseName (name : String)
  | consolidationFailed (detail : String)
  | closing
  | closed
  -- survey
  | excludedNames (names : List String)
  | reportHeading (source game : String) (flatten : Bool)
  | thinRule
  | figure (kind : Figure) (value : Int)
  | payloadNotFlattened
  | collisionsHeading
  | collision (key : String) (count : Int)
  -- samples
  | fetching (limit : Int) (game : String)
  | noDocuments (game : String)
  | exported (count : Nat)
  | exportedFile (path : String)
  | exportedSize (size : String)
  | sampleUsage

namespace Notice

/-- Warnings and failures go to the error channel. -/
def channel : Notice → Channel
  | .insertionFailed .. | .indexFailed .. | .renameFailed .. | .notConnected .. |
    .notConnectedForIndexes .. | .consolidationFailed .. => .errors
  | _ => .output

def ruled (c : Char) : String := String.ofList (List.replicate 70 c)

def modeText (flatten : Bool) : String := if flatten then "aplanar data" else "copia directa"

/-- The share of documents read, in whole percent. -/
def percentage (count total : Nat) : Nat := count * 100 / total

def text : Notice → String
  | .rule => ruled '=' ++ "\n"
  | .blank => "\n"
  | .heading title => ruled '=' ++ "\n" ++ title.text ++ "\n" ++ ruled '=' ++ "\n"
  | .spacedHeading title => "\n" ++ ruled '=' ++ "\n" ++ title.text ++ "\n" ++ ruled '=' ++ "\n"
  | .insertionFailed identity source detail =>
      s!"\n   ⚠️  Error migrando doc {identity.display} de {source}: {detail}\n"
  | .progress source count total =>
      s!"\r\x1b[K⏳ {source}: {Text.grouped count}/{Text.grouped total} " ++
        s!"({percentage count total}%)"
  | .sourceMigrated source migrated skipped =>
      s!"{source}: migrated={migrated}, skipped={skipped}\n"
  | .sourceErrors source errors =>
      s!"   ❌ {source}: errors={errors} (revisar detalle arriba)\n"
  | .target => s!"🎯 Colección destino: {Schema.target}\n"
  | .prefixedCount count => s!"📦 Colecciones {Schema.logPrefix}* encontradas: {count}\n"
  | .rawCount count => s!"📦 Colecciones raw encontradas: {count}\n"
  | .excludedCount count => s!"🚫 Colecciones excluidas: {count}\n"
  | .targetTotal total =>
      s!"Total de documentos en {Schema.target}: {Text.grouped total}\n"
  | .gameTotal game count => s!"   • {game}: {Text.grouped count}\n"
  | .totalErrors errors =>
      s!"\n⚠️  {Text.grouped errors} documentos con error (ver advertencias arriba)\n"
  | .indexesFailed names => "⚠️  Índices no creados: " ++ ", ".intercalate names ++ "\n"
  | .creatingIndexes => "\n🔨 Creando índices...\n"
  | .indexBuilt name => s!"   ✅ Índice creado: {name}\n"
  | .indexFailed name detail => s!"   ⚠️  No se pudo crear {name}: {detail}\n"
  | .fieldCount field count => s!"Documentos con {field}: {Text.grouped count}\n"
  | .nothingToRename => "No hay documentos para migrar.\n"
  | .renamed count => s!"Modificados: {Text.grouped count} documentos\n"
  | .renameFailed field detail => s!"❌ Error renombrando {field}: {detail}\n"
  | .renameCanBeRepeated => "   Se puede re-ejecutar: solo se tocan documentos pendientes\n"
  | .renameComplete => "✅ RENOMBRADO COMPLETADO\n"
  | .renameIncomplete => "❌ RENOMBRADO INCOMPLETO\n"
  | .connecting => "🔌 Conectando a MongoDB...\n"
  | .connected => "✅ Conexión a MongoDB exitosa\n"
  | .notConnected detail => s!"❌ Error de conexión a MongoDB\n   Detalle: {detail}\n"
  | .notConnectedForIndexes detail => s!"❌ Error conectando a MongoDB: {detail}\n"
  | .noDatabase => "\n❌ No se pudo conectar a la base de datos\n"
  | .databaseName name => s!"📍 MongoDB: {name}\n"
  | .consolidationFailed detail => s!"\n❌ Error durante la migración: {detail}\n"
  | .closing => "\n🔒 Cerrando conexión...\n"
  | .closed => "✅ Conexión cerrada correctamente\n"
  | .excludedNames names =>
      let listed := ", ".intercalate names
      "Excluidas: " ++ (if listed = "" then "(ninguna)" else listed) ++ "\n"
  | .reportHeading source game flatten =>
      s!"\n📦 {source} → game='{game}' ({modeText flatten})\n"
  | .thinRule => ruled '-' ++ "\n"
  | .figure kind value => s!"  {Text.padRight 35 kind.label} {Text.grouped value}\n"
  | .payloadNotFlattened => "  ⚠️  Colección raw con 'data': el payload NO se aplana\n"
  | .collisionsHeading => "  Claves de data descartadas (gana el campo raíz):\n"
  | .collision key count => s!"    - {Text.padRight 31 key} {Text.grouped count}\n"
  | .fetching limit game => s!"📥 Obteniendo {limit} documentos de '{game}'...\n"
  | .noDocuments game =>
      s!"⚠️  El juego '{game}' no tiene documentos en {Schema.target}\n"
  | .exported count => s!"✅ Exportados {count} documentos\n"
  | .exportedFile path => s!"📄 Archivo: {path}\n"
  | .exportedSize size => s!"📊 Tamaño: {size} KB\n"
  | .sampleUsage =>
      "Uso: python export_sample.py <game> [limit]\nEjemplo: python export_sample.py tetris 200\n"

/-- Everything that some notices print on a channel. -/
def printed (channel : Channel) (notices : List Notice) : String :=
  String.join ((notices.filter fun notice => notice.channel == channel).map text)

end Notice
end GameLogs
