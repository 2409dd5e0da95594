namespace GoSpecs.Help

def version : String := "ginkgo-convert 0.1.0\n"

def heading : String :=
  "Rewrite xUnit-style Go tests as Ginkgo specs\n\nUsage: ginkgo-convert [OPTIONS] <PACKAGE>\n\n"

/-- An empty line of an option's description, which keeps its indentation. -/
def gap : String := "          \n"

def long : String :=
  heading ++
    "Arguments:\n" ++
    "  <PACKAGE>\n" ++
    "          Package directory or import path to convert, including subpackages\n" ++
    "\n" ++
    "Options:\n" ++
    "      --destructive\n" ++
    "          Overwrite test files in place instead of writing *_ginkgo_test.go files\n" ++
    "\n" ++
    "      --create-suite[=<BOOL>]\n" ++
    "          Create a <package>_suite_test.go in every package that lacks one\n" ++
    gap ++
    "          [default: true]\n" ++
    "          [possible values: true, false]\n" ++
    "\n" ++
    "      --scaffold <SCAFFOLD>\n" ++
    "          How suite files are created\n" ++
    "\n" ++
    "          Possible values:\n" ++
    "          - ginkgo:   Run `ginkgo bootstrap` inside the package directory\n" ++
    "          - template: Write the bootstrap file directly\n" ++
    gap ++
    "          [default: ginkgo]\n" ++
    "\n" ++
    "      --dump-ast\n" ++
    "          Parse the discovered test files and dump their trees as JSON\n" ++
    "\n" ++
    "  -h, --help\n" ++
    "          Print help (see a summary with '-h')\n" ++
    "\n" ++
    "  -V, --version\n" ++
    "          Print version\n"

def short : String :=
  heading ++
    "Arguments:\n" ++
    "  <PACKAGE>  Package directory or import path to convert, including subpackages\n" ++
    "\n" ++
    "Options:\n" ++
    "      --destructive            " ++
    "Overwrite test files in place instead of writing *_ginkgo_test.go files\n" ++
    "      --create-suite[=<BOOL>]  " ++
    "Create a <package>_suite_test.go in every package that lacks one " ++
    "[default: true] [possible values: true, false]\n" ++
    "      --scaffold <SCAFFOLD>    " ++
    "How suite files are created [default: ginkgo] [possible values: ginkgo, template]\n" ++
    "      --dump-ast               " ++
    "Parse the discovered test files and dump their trees as JSON\n" ++
    "  -h, --help                   Print help (see more with '--help')\n" ++
    "  -V, --version                Print version\n"

end GoSpecs.Help
