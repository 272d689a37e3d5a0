import Sightline.Mask.Masker
import Sightline.Setting.Lookup

/-!
The masker that the settings ask for. Delimiters that are given always win; otherwise the lexer
registered for the file's name, if the settings name that engine; otherwise the delimiters of the
settings.
-/
namespace Sightline.Masker

/-- The masker for some delimiters. -/
def ofSpec (spec : Value) : Except DelimiterFault Masker :=
  (DelimiterSet.ofValue spec).map ofDelimiters

/-- Whether the settings' engine, of which this is the value, works by lexers. -/
def isLexerEngine : Value → Bool
  | .text s => s = "pygments"
  | _ => false

/-- The masker of the settings' own delimiters. -/
def ofSettings (settings : Table) : Except DelimiterFault Masker × List Record :=
  let (spec, notes) := Setting.lookup settings "masking" "delimiters"
  (ofSpec spec, notes)

/-- The masker for the file at `path`, and what there is to report of the choice. -/
def choose (lexerFor : String → Option Mask.Lexer) (path : Option String) (settings : Table) :
    (delimiters : Value) → Except DelimiterFault Masker × List Record
  | .null =>
    let (engine, notes) := Setting.lookup settings "masking" "engine"
    match path with
    | some path =>
      if isLexerEngine engine then
        match lexerFor path with
        | some lexer =>
          (.ok (ofLexer lexer), notes ++ [.note .debug
            ("Pygments: Masking '" ++ path ++ "' with lexer '" ++ lexer.name ++ "'.")])
        | none =>
          let (masker, more) := ofSettings settings
          (masker, notes ++ [.note .debug
            ("Pygments: No lexer for filename '" ++ path ++ "', using delimiters.")] ++ more)
      else
        let (masker, more) := ofSettings settings
        (masker, notes ++ more)
    | none =>
      let (masker, more) := ofSettings settings
      (masker, notes ++ more)
  | spec =>
    let (_, notes) := Setting.lookup settings "masking" "engine"
    (ofSpec spec, notes)

end Sightline.Masker
