import Sightline.Record
import Sightline.Setting.Merge

/-!
The embedded settings, and looking a setting up with them to fall back on. A section that is there
but is no table is reported once per lookup and then ignored.
-/
namespace Sightline.Setting

/-- The settings that hold where a document says nothing. -/
def defaults : Table :=
  [("masking", .table .block
      [("engine", .text "delimiters"),
       ("delimiters", .list [.text "//", .text "/*", .text "\""])]),
   ("navigation", .table .block
      [("member_keywords",
        .list [.text "public", .text "internal", .text "protected", .text "private"])]),
   ("io", .table .block
      [("encoding", .null),
       ("detect_sample_size", .whole 20480),
       ("detect_min_confidence", .number (.floating (.ofDecimal false 75 (-2))))]),
   ("logging", .table .block
      [("file_level", .text "DEBUG"),
       ("console_level", .text "WARNING"),
       ("log_to_console", .bool true),
       ("separate_error_log", .bool false),
       ("log_file", .text "codecursor.log")])]

/-- The embedded value of a setting, or nothing. -/
def embedded (section_ key : String) : Value :=
  match Table.get? section_ defaults with
  | some (.table _ entries) => (Table.get? key entries).getD .null
  | _ => .null

/-- Reported of a section that is no table. -/
def notATable (section_ : String) : Record :=
  .note .warning ("Config section '" ++ section_ ++ "' is not a table; using defaults.")

/-- The value of a setting, and what there is to report of its section. A missing or empty entry
falls back on the embedded value. -/
def lookup (settings : Table) (section_ key : String) : Value × List Record :=
  match Table.get? section_ settings with
  | some (.table _ entries) =>
    match Table.get? key entries with
    | none | some .null => (embedded section_ key, [])
    | some value => (value, [])
  | none | some .null => (embedded section_ key, [])
  | some _ => (embedded section_ key, [notATable section_])

end Sightline.Setting
