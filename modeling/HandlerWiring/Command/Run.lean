import HandlerWiring.Command.Config
import HandlerWiring.Command.Generate
import HandlerWiring.Command.Scan
import HandlerWiring.Command.Validate

/-!
# Running commands

Each command as a session, with lines for people or with a document for machines.
-/

namespace HandlerWiring

/-- How a command prints. -/
inductive Output where
  /-- Lines for people, with or without colours. -/
  | prose (colours : Bool)
  /-- One document for machines. -/
  | document
deriving DecidableEq, Repr

/-- The session of a command. -/
def Command.session : Command → Output → Session (Except Failure ExitStatus)
  | .generate decls outDir settings properties denyWarnings, .prose colours =>
    generateProse colours decls outDir settings properties denyWarnings
  | .generate decls outDir settings properties denyWarnings, .document =>
    generateJson decls outDir settings properties denyWarnings
  | .validate decls settings properties denyWarnings, .prose colours =>
    validateProse colours decls settings properties denyWarnings
  | .validate decls settings properties denyWarnings, .document =>
    validateJson decls settings properties denyWarnings
  | .scan decls, .prose colours => scanProse colours decls
  | .scan decls, .document => scanJson decls
  | .config decls settings properties, .prose colours =>
    configProse colours decls settings properties
  | .config decls settings properties, .document => configJson decls settings properties

end HandlerWiring
