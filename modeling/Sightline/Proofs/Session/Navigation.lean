import Sightline.Proofs.Buffer.Wiped
import Sightline.Proofs.Mask.Idempotent
import Sightline.Proofs.Session.Opening

/-! What delimiters hide never steers a session. A session on some lines and one on
their views, from which all hidden text is gone, are moved about by the same calls with
the same answers, the same failures and the same cursor. -/
namespace Sightline
open Mask

/-- The operations that look at views and move the cursor, and do nothing else. -/
def Operation.Navigates : Operation → Prop
  | .toTop => True
  | .jump _ => True
  | .seekHaving _ => True
  | .seekBackHaving _ => True
  | .seekBeing _ => True
  | .seekBackBeing _ => True
  | .seekAny _ => True
  | .seekMemberEnd => True
  | .currentView => True
  | .currentHas _ => True
  | _ => False

namespace Session

/-- The session with its hidden text wiped out. -/
def wiped (s : Session) : Session := { s with buffer := s.buffer.wiped }

/-- What a call leaves behind, with the hidden text of the session wiped out. -/
def wipedOutcome (outcome : Outcome) : Outcome := { outcome with session := outcome.session.wiped }

theorem misled_wiped (store : Store) (s : Session) (b : Buffer) (fault : CandidateFault) :
    misled store s.wiped b.wiped fault = wipedOutcome (misled store s b fault) := by
  simp only [misled, Buffer.leave_wiped]
  rfl

theorem perform_wiped (codecs : Registry) (store : Store) (s : Session) {op : Operation}
    (h : op.Navigates) :
    s.wiped.perform codecs store op = wipedOutcome (s.perform codecs store op) := by
  cases op with
  | toTop => rfl
  | jump offset =>
      simp only [perform, wiped, Buffer.jump_wiped]
      rfl
  | seekHaving t =>
      simp only [perform, wiped, Buffer.seekHaving_wiped]
      rfl
  | seekBackHaving t =>
      simp only [perform, wiped, Buffer.seekBackHaving_wiped]
      rfl
  | seekBeing t =>
      simp only [perform, wiped, Buffer.seekBeing_wiped]
      rfl
  | seekBackBeing t =>
      simp only [perform, wiped, Buffer.seekBackBeing_wiped]
      rfl
  | seekAny candidates =>
      simp only [perform, wiped, Buffer.seekCandidates_wiped]
      cases candidates.members? with
      | none => rfl
      | some items =>
          dsimp only
          cases s.buffer.seekCandidates items with
          | error fault => exact misled_wiped store s s.buffer fault
          | ok step => rfl
  | seekMemberEnd =>
      simp only [perform, wiped, Buffer.jump_wiped, Buffer.seekCandidates_wiped]
      cases (s.buffer.jump 1).1.seekCandidates s.keywords with
      | error fault => exact misled_wiped store s _ fault
      | ok next =>
          simp only [Except.map, Buffer.endAbove_wiped]
          rfl
  | currentView =>
      simp only [perform, wiped, Buffer.currentView_wiped]
      cases s.buffer.currentView <;> rfl
  | currentHas t =>
      simp only [perform, wiped, Buffer.currentView_wiped]
      cases s.buffer.currentView <;> rfl
  | _ => cases h

theorem performAll_wiped (codecs : Registry) (store : Store) (s : Session) {ops : List Operation}
    (h : ∀ op ∈ ops, op.Navigates) :
    s.wiped.performAll codecs store ops = (s.performAll codecs store ops).map wipedOutcome := by
  induction ops generalizing store s with
  | nil => rfl
  | cons op ops ih =>
      obtain ⟨hOp, hOps⟩ := List.forall_mem_cons.mp h
      simp only [performAll, perform_wiped codecs store s hOp, List.map_cons]
      exact congrArg _ (ih _ _ hOps)

/-- Lines are built of any texts, with the views that the scanner writes. -/
theorem build_ofDelimiters (ds : DelimiterSet) (texts : List Text) :
    build (.ofDelimiters ds) texts =
      .ok (texts.zipWith Line.mk (walkLines ds false texts)) :=
  (build_eq_ok_iff _ _ _).mpr
    ⟨_, mask_ofDelimiters ds texts, fits_walkLines ds false texts, rfl⟩

theorem wiped_zipWith {texts views : List Text} (h : Fits texts views) :
    (texts.zipWith Line.mk views).map (fun l => Line.plain l.view) =
      views.zipWith Line.mk views := by
  induction h with
  | nil => rfl
  | cons _ _ ih => exact congrArg _ ih

/-- An opening on the views of some lines gives the session on the lines, wiped. -/
theorem ofLines_views {o : Opening} {ds : DelimiterSet} (h : o.Delimits ds) (w : Surroundings)
    (lines : List Text) : ∃ s, (ofLines w lines o).1 = .ok s ∧
      s.Shows lines (walkLines ds false lines) ∧
      (ofLines w (walkLines ds false lines) o).1 = .ok s.wiped := by
  obtain ⟨opened, hStart, hMasker, -⟩ := (start_alignment (h.toMask?_onLines w)).2 [] rfl .nil
  have hFits := fits_walkLines ds false lines
  have hOpened (given : List Text) : (ofLines w given o).1 = .ok { opened with
      buffer := .ofLines (given.zipWith Line.mk (walkLines ds false given)) } := by
    rw [ofLines_eq, hStart]
    simp only [Except.bind, hMasker, build_ofDelimiters]
    rfl
  refine ⟨_, hOpened lines, shows_zipWith hFits rfl, ?_⟩
  rw [hOpened, walkLines_walkLines, ← wiped_zipWith hFits]
  rfl

/-- The view of a view is the view itself, and no mark of a comment that is hidden
stands in it. So what delimiters hide in some lines never steers a session on them: one
that is opened on the views, where nothing is hidden any more, answers all searches,
jumps and looks at the current line alike, and its cursor goes the same way. -/
theorem hidden_text_never_steers (ds : DelimiterSet) (lines : List Text) :
    ∃ views, (Masker.ofDelimiters ds).mask lines = .ok views ∧
      (Masker.ofDelimiters ds).mask views = .ok views ∧
      (∀ view ∈ views, (ds.lineComment = true → ¬Delimiter.lineComment.token <:+: view) ∧
        (ds.blockComment = true → ¬Delimiter.blockComment.token <:+: view)) ∧
      ∀ (w : Surroundings) (o : Opening), o.Delimits ds →
        ∃ whole blind, (ofLines w lines o).1 = .ok whole ∧ (ofLines w views o).1 = .ok blind ∧
          blind.buffer.texts = views ∧ blind.buffer.views = views ∧
          blind.buffer.position = whole.buffer.position ∧
          ∀ (codecs : Registry) (store : Store) (ops : List Operation),
            (∀ op ∈ ops, op.Navigates) →
            List.Forall₂ (fun seen unseen => unseen.answer = seen.answer ∧
                unseen.events = seen.events ∧
                unseen.session.buffer.position = seen.session.buffer.position)
              (whole.performAll codecs store ops) (blind.performAll codecs store ops) := by
  refine ⟨walkLines ds false lines, mask_ofDelimiters ds lines, ?_,
    not_mark_infix_walkLines ds false lines, fun w o hDelimits => ?_⟩
  · rw [mask_ofDelimiters, walkLines_walkLines]
  · obtain ⟨whole, hWhole, hShows, hBlind⟩ := ofLines_views hDelimits w lines
    refine ⟨whole, whole.wiped, hWhole, hBlind, ?_, ?_, rfl, fun codecs store ops hOps => ?_⟩
    · exact (Buffer.texts_wiped _).trans hShows.views
    · exact (Buffer.views_wiped _).trans hShows.views
    · rw [performAll_wiped codecs store whole hOps, List.forall₂_map_right_iff, List.forall₂_same]
      intro outcome _
      exact ⟨rfl, rfl, rfl⟩

/-- Braces in a comment and in a literal are passed over, whether they are there or not. -/
theorem hidden_braces_passed_over : Opening.bare.Delimits .standard ∧
    (∀ op ∈ [Operation.seekHaving ['}'], .currentView, .seekMemberEnd], op.Navigates) ∧
    ∃ whole blind,
      (ofLines bare ["a(); // \x7d".toList, "b(\"\x7d\");".toList, "\x7d".toList] .bare).1 =
        .ok whole ∧
      (ofLines bare ["a();     ".toList, "b(\" \");".toList, "\x7d".toList] .bare).1 = .ok blind ∧
      List.Forall₂ (fun seen unseen => unseen.answer = seen.answer ∧
          unseen.events = seen.events ∧
          unseen.session.buffer.position = seen.session.buffer.position)
        (whole.performAll .common (.empty "/")
          [.seekHaving ['}'], .currentView, .seekMemberEnd])
        (blind.performAll .common (.empty "/")
          [.seekHaving ['}'], .currentView, .seekMemberEnd]) := by
  have hDelimits : Opening.bare.Delimits .standard := ⟨rfl, rfl, fun _ => rfl, rfl⟩
  have hOps : ∀ op ∈ [Operation.seekHaving ['}'], .currentView, .seekMemberEnd], op.Navigates := by
    simp [Operation.Navigates]
  obtain ⟨views, hMask, -, -, hSteered⟩ :=
    hidden_text_never_steers .standard ["a(); // \x7d".toList, "b(\"\x7d\");".toList, "\x7d".toList]
  obtain ⟨whole, blind, hWhole, hBlind, -, -, -, hAlike⟩ := hSteered bare .bare hDelimits
  rw [mask_ofDelimiters] at hMask
  obtain rfl : ["a();     ".toList, "b(\" \");".toList, "\x7d".toList] = views :=
    Except.ok.inj hMask
  exact ⟨hDelimits, hOps, whole, blind, hWhole, hBlind, hAlike .common (.empty "/") _ hOps⟩

end Session

end Sightline
