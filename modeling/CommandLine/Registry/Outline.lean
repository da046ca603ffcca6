import CommandLine.Registry.Basic

/-! How a registry is shown: its help text and its structure. Help is the banner and then every entry, in
order. All descriptions begin in one column, right of the column of names; names too wide for theirs
stand on a line alone. -/

namespace CommandLine

inductive LayoutFault
  | columnTooWide (width : Nat)
  deriving DecidableEq, Repr

namespace Settings

def maxColumn : Nat := 65535

def padded (settings : Settings) (s : String) : String :=
  Text.justified .left settings.columnWidth ' ' s

def describedLine (settings : Settings) (names line : String) : String :=
  settings.indent ++ settings.padded names ++ " " ++ line

end Settings

def Switch.helpLines (settings : Settings) (s : Switch) : List String :=
  match s.description with
  | [] => [settings.indent ++ s.column]
  | line :: lines =>
    (if s.column.length ≤ settings.columnWidth then [settings.describedLine s.column line]
     else [settings.indent ++ s.column, settings.describedLine "" line]) ++
      lines.map (settings.describedLine "")

namespace Entry

def helpLines (settings : Settings) : Entry → List String
  | switch s => s.helpLines settings
  | heading text => [text]

def isDescribed : Entry → Bool
  | switch s => !s.description.isEmpty
  | heading _ => false

end Entry

namespace Registry

def helpLines (R : Registry) : List String :=
  R.banner.toList ++ R.entries.flatMap (·.helpLines R.settings)

/-- A column that no description needs may have any width. -/
def help (R : Registry) : Except LayoutFault String :=
  if R.settings.columnWidth > Settings.maxColumn ∧ R.entries.any Entry.isDescribed then
    .error (.columnTooWide R.settings.columnWidth)
  else .ok (String.join (R.helpLines.map (· ++ "\n")))

end Registry

def Settings.outline (settings : Settings) : Outline :=
  .record "Settings"
    [("summary_width", .nat settings.columnWidth),
     ("summary_indent", .text settings.indent),
     ("require_exact", .bool settings.exactNames)]

def Entry.outline : Entry → Outline
  | switch s => .tuple "Switch" [s.outline]
  | heading text => .tuple "Separator" [.text text]

def Registry.outline (R : Registry) : Outline :=
  .record "OptionParser"
    [("banner", .option (R.banner.map .text)),
     ("entries", .list (R.entries.map Entry.outline)),
     ("settings", R.settings.outline)]

end CommandLine
