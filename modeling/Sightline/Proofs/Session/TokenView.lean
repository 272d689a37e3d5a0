import Sightline.Proofs.Mask.Tokenwise
import Sightline.Proofs.Session.Opening

/-! Sessions with a lexer for a masker. Tokens hide characters where they stand, so the views
fit all lines that hold no line feed. A line feed inside a line would be one more line of the
view, and the session is refused. -/
namespace Sightline.Session
open Mask

/-- Lines are refused for their number, if there are not as many views. -/
theorem build_of_length_ne {masker : Masker} {texts views : List Text}
    (hMask : masker.mask texts = .ok views) (hLength : texts.length ≠ views.length) :
    build masker texts = .error (.alignment (.lineCount views.length texts.length)) := by
  simp only [build, hMask, alignmentFault?, if_neg hLength]

/-- A session whose masker has views of no lines is refused for what the given lines are. -/
theorem ofLines_of_build_error {w : Surroundings} {o : Opening} {masker : Masker}
    (hToMask : toMask? w o.onLines = some (masker, [])) (hNone : masker.mask [] = .ok [])
    {given : List Text} {fault : SessionFault} (hBuild : build masker given = .error fault) :
    (ofLines w given o).1 = .error fault := by
  obtain ⟨encoding, keywords, hStart⟩ := start_of_toMask?_some hToMask
  have hEmpty : build masker [] = .ok [] :=
    (build_eq_ok_iff masker [] []).mpr ⟨[], hNone, .nil, rfl⟩
  rw [ofLines_eq, hStart, hEmpty]
  simp only [Except.map, Except.bind, hBuild]

/-- What the views of a lexer show of some lines, offset by offset in the text of these: a filler
where a token hides a character that is no line feed, and that character else. So only the tokens
that there are count. The views fit lines without line feeds; with one among them there are more
views than lines, and no session is opened on these. -/
theorem tokens_hide_exactly (lexer : Lexer) {lines : List Text} (hLines : lines ≠ [])
    (hStart : ∀ t ∈ lexer.tokens (Text.join ['\n'] lines ++ ['\n']), 0 ≤ t.start) :
    let text := Text.join ['\n'] lines
    let tokens := lexer.tokens (text ++ ['\n'])
    (∃ views, (Masker.ofLexer lexer).mask lines = .ok views ∧
      (∀ k, (Text.join ['\n'] views)[k]? =
        text[k]?.map fun c => if c ≠ '\n' ∧ ∃ t ∈ tokens, t.Hides k then filler else c) ∧
      ((∀ line ∈ lines, '\n' ∉ line) → Fits lines views) ∧
      ((∃ line ∈ lines, '\n' ∈ line) → lines.length < views.length ∧
        ∀ w o, toMask? w o.onLines = some (Masker.ofLexer lexer, []) →
          (ofLines w lines o).1 =
            .error (.alignment (.lineCount views.length lines.length)))) ∧
    ∀ other : Lexer, (∀ t, t ∈ other.tokens (text ++ ['\n']) ↔ t ∈ tokens) →
      (Masker.ofLexer other).mask lines = (Masker.ofLexer lexer).mask lines := by
  intro text tokens
  have hMask := tokenwise_eq lexer hLines hStart
  have hFits := fits_splitOn_blankedAt (fun k => ∃ t ∈ tokens, t.Hides k) text
  refine ⟨⟨_, hMask, ?offsets, ?fitting, ?broken⟩, ?others⟩
  case offsets =>
    intro k
    rw [Text.join_splitOn, getElem?_blankedAt]
  case fitting =>
    intro hFree
    rwa [Text.splitOn_join hLines hFree] at hFits
  case broken =>
    intro hFeed
    have hMore : lines.length < (Text.splitOn '\n' text).length :=
      Text.length_lt_length_splitOn_join hFeed
    rw [List.Forall₂.length_eq hFits] at hMore
    refine ⟨hMore, ?_⟩
    intro w o hToMask
    exact ofLines_of_build_error hToMask rfl (build_of_length_ne hMask hMore.ne)
  case others =>
    intro other hSame
    have hHidden (k : Nat) :
        (∃ t ∈ other.tokens (text ++ ['\n']), t.Hides k) ↔ ∃ t ∈ tokens, t.Hides k :=
      exists_congr fun t => and_congr_left fun _ => hSame t
    calc
      (Masker.ofLexer other).mask lines = .ok (Text.splitOn '\n' (blankedAt
          (fun k => ∃ t ∈ other.tokens (text ++ ['\n']), t.Hides k) text)) :=
        tokenwise_eq other hLines fun t ht => hStart t ((hSame t).mp ht)
      _ = .ok (Text.splitOn '\n' (blankedAt (fun k => ∃ t ∈ tokens, t.Hides k) text)) := by
        rw [blankedAt_congr hHidden]
      _ = (Masker.ofLexer lexer).mask lines := hMask.symm

/-- A lexer that finds a literal, a comment, a quote that is left open, a directive where the
comment is, and the comment again. -/
def rambling : Lexer where
  name := "rambling"
  tokens := fun _ =>
    [⟨2, ["Literal", "String", "Double"], "\"b\"".toList⟩,
      ⟨6, ["Comment", "Multiline"], "/*c\nd*/".toList⟩,
      ⟨14, ["Literal", "String"], "\"\n".toList⟩,
      ⟨6, ["Comment", "Preproc"], "/*c\nd*/ ".toList⟩,
      ⟨6, ["Comment", "Multiline"], "/*c\nd*/".toList⟩]

/-- The literal and the comment are hidden, the quotes and the line feed are not. One line feed more
keeps a session from being opened. -/
theorem rambling_views :
    (∃ views, (Masker.ofLexer rambling).mask ["a \"b\" /*c".toList, "d*/ \"".toList] = .ok views ∧
      Fits ["a \"b\" /*c".toList, "d*/ \"".toList] views ∧
      Text.join ['\n'] views = "a \" \"    \n    \"".toList) ∧
    ∃ views lines, (ofLines bare ["a \"b\" /*c\nd".toList]
      { Opening.bare with masker := some (.ofLexer rambling) }).1 =
        .error (.alignment (.lineCount views lines)) ∧ lines < views := by
  constructor
  · have hLines : ["a \"b\" /*c".toList, "d*/ \"".toList] ≠ [] := by decide
    obtain ⟨⟨views, hMask, hOffsets, hFits, -⟩, -⟩ :=
      tokens_hide_exactly rambling hLines (by decide)
    refine ⟨views, hMask, hFits (by decide), ?_⟩
    apply List.ext_getElem?
    intro k
    have hBlanked := getElem?_blankedAt (fun k => ∃ t ∈ rambling.tokens [], t.Hides k)
      (Text.join ['\n'] ["a \"b\" /*c".toList, "d*/ \"".toList]) k
    rw [hOffsets k]
    refine hBlanked.symm.trans (congrArg (fun s : Text => s[k]?) ?_)
    decide
  · have hLines : ["a \"b\" /*c\nd".toList] ≠ [] := by decide
    obtain ⟨⟨views, -, -, -, hBroken⟩, -⟩ := tokens_hide_exactly rambling hLines (by decide)
    obtain ⟨hMore, hRefused⟩ := hBroken (by decide)
    exact ⟨views.length, 1, hRefused bare _ rfl, hMore⟩

end Sightline.Session
