import Oneliner.Command.Manual
import Oneliner.Command.Options
import Oneliner.Program.Machine
import Oneliner.Script.Basic

namespace Oneliner
namespace Workspace

/-!
The names of a session.

Startup file, script and function share one set of global names with the session
itself.  The startup file comes first and may give any name a value.  Some of
these names the session binds again before the script is run, and some it takes
away.
-/

open Program

/-- The name under which the startup file is open while it is being run. -/
def fileName : Text := "f".toList

/-- The name of the function that a script defines. -/
def functionName : Text := "pype".toList

/-- The name under which the session finds out whether it is to go on. -/
def roleName : Text := "__name__".toList

/-- The role in which it goes on. -/
def mainRole : Text := "__main__".toList

def versionName : Text := "__version__".toList

def optionsName : Text := "__opts__".toList

def programName : Text := "__pypefn__".toList

/-- The name of everything that is in place. -/
def placeName : Text := "__builtins__".toList

/-- The name of the reader of command lines. -/
def readerName : Text := "OptionParser".toList

/-- The reader of command lines. -/
def reader : Value := .builtin .reader

/-- The modules that programs find in place. -/
def modules : List Text :=
  ["datetime", "os", "pprint", "re", "sys", "time", "math"].map String.toList

/-- What a startup file finds under global names. -/
def initial : Bindings :=
  modules.map (fun name => (name, .module name)) ++
    [("exit".toList, .builtin .exit), (readerName, reader),
     (placeName, .module "builtins".toList), (roleName, .str mainRole),
     ("__doc__".toList, .str Command.manual), ("__author__".toList, .str Command.author),
     ("__license__".toList, .str Command.license), (versionName, .str Command.version),
     ("__file__".toList, .object "__file__".toList)]

/-- The functions that are put in place after the startup file. -/
def helpers : Bindings :=
  [Builtin.out, .outAlias, .err, .errAlias, .convert].map (fun function =>
    (function.name, .builtin function)) ++
    [("__pypecls__".toList, .builtin (.otherKind "__main__.__pypecls__".toList))]

/-- The options of a command line as a record. -/
def optionsRecord (options : Command.Options) : Value :=
  let code (value : Option Text) : Scalar := (value.map Scalar.str).getD .null
  .record
    [("before".toList, code options.before), ("after".toList, code options.after),
     ("exception".toList, code options.handler), ("collect".toList, .bool options.collect),
     ("debug".toList, .bool options.debug), ("stripnewlines".toList, .bool options.trim),
     ("convertnumbers".toList, .bool options.convert)]

/-- A binding for a piece of code that may be absent. -/
def codeBinding (name : String) (code : Option Text) : Bindings :=
  (code.map fun text => (name.toList, .str text)).toList

/-- What is known of a script while it is run. -/
def scriptBindings (script : Script) : Bindings :=
  codeBinding "before_code" script.before ++ codeBinding "after_code" script.after ++
    codeBinding "except_code" script.handler ++
    [("indented_code".toList, .str script.main),
     ("i".toList, .int (if script.handler.isSome then 1 else 0)),
     (programName, .str script.text)]

/-- Names that are free again when the script is run. -/
def removed : List Text :=
  [functionName, "args".toList]

/-- The global names with which a script is run. -/
def withScript (script : Script) (globals : Bindings) : Bindings :=
  removed.foldl Bindings.remove (globals.setAll (scriptBindings script))

end Workspace
end Oneliner
