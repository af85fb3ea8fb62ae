namespace LineComment.CommandLine

def versionText : String := "0.1.0"

def exampleLines : List String :=
  ["",
    "Examples:",
    "  comment-trim                              Strip comments from every .rs file",
    "                                            under ./src",
    "  comment-trim --dry-run crates/core        Preview the changes for a directory",
    "  src/main.rs                               and a single file",
    "  comment-trim -e generated -e              Skip generated code and test",
    "  tests/fixtures src                        fixtures"]

def helpLines (explicit : Bool) : List String :=
  ["comment-trim [paths..]",
    "",
    "Strip trivial // comments from source files, keeping doc and marker comments",
    "",
    "Positionals:",
    "  paths  Files or directories to process             "
      ++ (if explicit then " [array]" else "[string]") ++ " [default: [\"src\"]]",
    "",
    "Options:",
    "  -h, --help          Show help                                        [boolean]",
    "  -V, --version       Show version number                              [boolean]",
    "  -n, --dry-run       Show what would be changed without modifying files",
    "                                                      [boolean] [default: false]",
    "  -e, --exclude       Skip files whose path contains this text (repeatable)",
    "                                                           [array] [default: []]",
    "      --ext           File extensions to process (default: .rs)          [array]",
    "  -f, --config        Path to a JSON config file (default:",
    "                      comment-trim.config.json when present)            [string]",
    "      --skip-missing  Warn about missing paths instead of failing",
    "                                                      [boolean] [default: false]",
    "  -p, --progress      Show a progress bar instead of per-file lines",
    "                                                      [boolean] [default: false]",
    "  -v, --verbose       Enable verbose logging          [boolean] [default: false]"]
    ++ if explicit then [] else exampleLines

def helpText (explicit : Bool) : String :=
  "\n".intercalate (helpLines explicit)

end LineComment.CommandLine
