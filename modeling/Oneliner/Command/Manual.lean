import Oneliner.Text.Basic

namespace Oneliner
namespace Command

/-!
What programs can learn about the command that runs them.
-/

/-- The version of the command. -/
def version : Text := "1.1.1".toList

/-- Who wrote the command.  Programs find it under a global name, as they find the version
and the license. -/
def author : Text := "Jens Kristian Geyti <pype@jkg.dk>".toList

def license : Text := "MIT".toList

/-- The description of the command, with examples. -/
def manual : Text :=
  (" Pype: Python for Command Line Oneliners\n" ++
   "\n" ++
   "This script makes it simple to use python in a typical unix command line pipe.\n" ++
   "Provide python code in command line arguments (pype 'my code here'), that will\n" ++
   "be executed for each line on stdout, available as the variable _ .\n" ++
   "\n" ++
   "Pype allows you to use curly brackets as indentation, making it simpler to use\n" ++
   "in a terminal setting.\n" ++
   "\n" ++
   "It's recommended to alias pype (alias pype='python PATH_TO/pype.py'), but you\n" ++
   "may just as well just use 'python pype.py'.\n" ++
   "\n" ++
   "Regularily used imports or functions can be specified in ~/.pype . This is a\n" ++
   "regular python file that will be included in all pype scripts.\n" ++
   "\n" ++
   "Examples:\n" ++
   "    # list all files/folders in root in uppercase\n" ++
   "    $ ls / | pype 'print _.upper()'\n" ++
   "\n" ++
   "    # don't use an alias\n" ++
   "    $ ls / | python ~/pype/pype.py 'print _.upper()'\n" ++
   "\n" ++
   "    # print files/folders containing the character 's' in uppercase:\n" ++
   "    $ ls / | pype \"if 's' in _ \x7b print _.upper() \x7d else \x7b print _.lower() " ++
   "\x7d\"\n" ++
   "\n" ++
   "    # do something cummulative using --before and --after. let's count all\n" ++
   "    # folders/files containing an s\n" ++
   "    $ ls / | pype --before \"l = []\" --after 'print len(l)'         \"if 's' in _: " ++
   "l.append(_)\"\n" ++
   "\n" ++
   "    # print the properly indented source code executed, together verbose input\n" ++
   "    # and output information using the debug flag. also useful to get an idea\n" ++
   "    # of how pype works\n" ++
   "    $ ls / | pype --before \"l = []\" --after 'print len(l)'         \"if 's' in _: " ++
   "l.append(_)\" --debug\n" ++
   "\n" ++
   "    # instead of 'print', you may use the included out(obj) (alias of print)\n" ++
   "    # and err(obj) functions for outputting to respectively stdout and stderr.\n" ++
   "    # if you prefer, these functions are also aliased as stdout(obj) and\n" ++
   "    # stderr(obj). \n" ++
   "    $ ls / | pype \"if 's' in _ \x7b out(_) \x7d else \x7b err(_) \x7d\" > stdout " ++
   "2>stderr\n" ++
   "\n" ++
   "").toList

end Command
end Oneliner
