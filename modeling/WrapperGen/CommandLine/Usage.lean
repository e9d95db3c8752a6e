import WrapperGen.Text

/-!
# What the command line says about itself
-/

namespace WrapperGen.CommandLine

/-- The name of the program. -/
def program : Text := "mkcallable"

/-- The name and the version of the program. -/
def versionText : Text := program ++ " 0.1.0\n"

/-- The forms of a command line. -/
def usage : Text :=
  "usage: mkcallable [-h] [--output PATH] [--export] [--extended] [--config FILE]\n" ++
  ("                  [--log-level \x7bDEBUG,INFO,WARNING,ERROR,CRITICAL\x7d]\n" ++
  ("                  [--no-format] [--version]\n" ++
  ("                  [FILE ...]\n" : Text)))

/-- What the parts of a command line stand for. -/
def explanations : Text :=
  "\nGenerate ugo callable wrappers from //ugo:callable directives.\n\n" ++
  ("positional arguments:\n" ++
  ("  FILE                  Go source files to scan\n\n" ++
  ("options:\n" ++
  ("  -h, --help            show this help message and exit\n" ++
  ("  --output PATH, -o PATH\n" ++
  ("                        output file, stdout if omitted\n" ++
  ("  --export              synthesize exported names for func placeholders\n" ++
  ("  --extended            generate only CallableExFunc wrappers\n" ++
  ("  --config FILE         JSON configuration file\n" ++
  ("  --log-level \x7bDEBUG,INFO,WARNING,ERROR,CRITICAL\x7d\n" ++
  ("                        logging level\n" ++
  ("  --no-format           skip gofmt and print the raw text\n" ++
  ("  --version             show program's version number and exit\n" : Text)))))))))))))

/-- The usage and what its parts stand for. -/
def help : Text := usage ++ explanations

end WrapperGen.CommandLine
