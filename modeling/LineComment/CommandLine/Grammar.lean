import LineComment.CommandLine.Value

namespace LineComment.CommandLine

structure Known where
  names : List String
  kind : Kind
  typed : List String := names
  standard : Option (List String) := none
  deriving DecidableEq

abbrev Grammar := List Known

def defaultPaths : List String := ["src"]

namespace Grammar

def general : Grammar :=
  [{ names := ["help", "h"], kind := .switch, typed := ["help"] },
    { names := ["version", "V"], kind := .switch, typed := ["version"] }]

def all (paths : Kind) : Grammar :=
  general ++
    [{ names := ["dry-run", "n", "dryRun"], kind := .switch, typed := ["dry-run", "n"] },
      { names := ["exclude", "e"], kind := .list, standard := some [] },
      { names := ["ext"], kind := .list },
      { names := ["config", "f"], kind := .text },
      { names := ["skip-missing", "skipMissing"], kind := .switch, typed := ["skip-missing"] },
      { names := ["progress", "p"], kind := .switch },
      { names := ["verbose", "v"], kind := .switch },
      { names := ["paths"], kind := paths, standard := some defaultPaths }]

def find? (g : Grammar) (name : String) : Option Known :=
  List.find? (name ∈ ·.names) g

def findTyped? (g : Grammar) (names : List String) : Option Known :=
  List.find? (fun known => names.any (· ∈ known.typed)) g

end Grammar

end LineComment.CommandLine
