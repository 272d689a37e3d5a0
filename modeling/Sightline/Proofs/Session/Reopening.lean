import Sightline.Proofs.Buffer.Unbroken
import Sightline.Proofs.Session.Opening
import Sightline.Proofs.TextFile.RoundTrip

/-! Writing a session and opening it again. No operation puts a line end into a line
unless it is given one, so the lines of the file are those of the session, and reading
it in the encoding it was written in gives them back. -/
namespace Sightline

/-- The text that an operation puts into the lines holds no line end. -/
def Operation.Unbroken : Operation → Prop
  | .insertBehindBracket _ s _ _ => s.Unbroken
  | .insertLine s _ _ => s.Unbroken
  | .insertNewLine s _ _ => s.Unbroken
  | .replaceText _ new => new.Unbroken
  | .appendText s => s.Unbroken
  | _ => True

namespace Session

/-- An operation that is given no line end puts none into the lines. -/
theorem perform_unbroken (codecs : Registry) (store : Store) {s : Session} {op : Operation}
    (hOp : op.Unbroken) (h : s.buffer.Unbroken) :
    (s.perform codecs store op).session.buffer.Unbroken := by
  have hSame (hChanged : op.hasChanged (s.perform codecs store op).answer = false) :
      (s.perform codecs store op).session.buffer.Unbroken := by
    rwa [Buffer.Unbroken, perform_lines hChanged]
  cases op with
  | insertBehindBracket located t opening closing =>
      simp only [perform]
      split
      next step hInsert => exact h.insertBehindBracket hOp hInsert
      · exact h
  | insertLine t following back => exact h.insertLine hOp following back
  | insertNewLine t following back => exact h.insertNewLine hOp following back
  | replaceText old new => exact h.replaceText hOp old
  | appendText t => exact h.appendText hOp
  | _ => exact hSame rfl

theorem write_eq {codecs : Registry} {store after : Store} {s : Session}
    {path name : Option String} {target : String} {events : List Event}
    (hTarget : ((path.map Path.shorten).orElse fun _ => s.path) = some target)
    (hName : encodingName s.encoding = .ok name)
    (hWrite : TextFile.write codecs store target s.buffer.texts name = (after, .ok (), events)) :
    s.write codecs store path = ⟨after, { s with path := some target }, .ok .nothing, events⟩ := by
  simp only [write, hTarget, hName, hWrite]

/-- A write succeeds only if there is a path, and the lines are written to it. -/
theorem exists_write_eq {codecs : Registry} {store : Store} {s : Session} {path : Option String}
    (h : (s.write codecs store path).answer = .ok .nothing) : ∃ target name after events,
      encodingName s.encoding = .ok name ∧
      TextFile.write codecs store target s.buffer.texts name = (after, .ok (), events) ∧
      s.write codecs store path =
        ⟨after, { s with path := some target }, .ok .nothing, events⟩ := by
  cases hTarget : (path.map Path.shorten).orElse fun _ => s.path with
  | none =>
      simp only [write, hTarget] at h
      cases h
  | some target =>
      cases hName : encodingName s.encoding with
      | error fault =>
          simp only [write, hTarget, hName] at h
          cases h
      | ok name =>
          rcases hWrite : TextFile.write codecs store target s.buffer.texts name with
            ⟨after, ⟨⟩ | ⟨⟩, events⟩
          · simp only [write, hTarget, hName, hWrite] at h
            cases h
          · exact ⟨target, name, after, events, rfl, hWrite, write_eq hTarget hName hWrite⟩

theorem encodingValue_of_encodingName {v : Value} {name : Option String}
    (h : encodingName v = .ok name) : encodingValue name = v := by
  unfold encodingName at h
  split at h
  · cases h
    rfl
  · split at h
    · cases h
    · cases h
      rfl
  · cases h
  · cases h

/-- The setting for the encoding of a session is a name of an encoding, or none for UTF-8. -/
def IsIn (codecs : Registry) (s : Session) (e : Encoding) : Prop :=
  ∃ name, encodingName s.encoding = .ok name ∧ TextFile.encodingOf codecs name = .ok e.codec

/-- An opening that reads the file a session has been written to, in the same encoding. -/
structure Opening.Rereads (o : Opening) (w : Surroundings) (codecs : Registry) (saved : Outcome) :
    Prop where
  codecs : w.means.codecs = codecs
  store : w.store = saved.store
  reading : o.reading = true
  path : o.path.map Path.shorten = saved.session.path
  encoding : (Setting.lookup o.settings "io" "encoding").1 = saved.session.encoding

theorem startLines_of_write {codecs : Registry} {store : Store} {s : Session} {e : Encoding}
    {path : Option String} (hAuto : codecs TextFile.detection = .error .unknown)
    (hSaved : (s.write codecs store path).answer = .ok .nothing) (hLines : s.buffer.Unbroken)
    (hIn : s.IsIn codecs e) {w : Surroundings} {o : Opening}
    (h : o.Rereads w codecs (s.write codecs store path)) :
    (startLines w (o.path.map Path.shorten) (Setting.lookup o.settings "io" "encoding").1 o).1 =
      .ok ((s.write codecs store path).session.buffer.texts, s.encoding) := by
  obtain ⟨target, name, after, events, hName, hWrite, hEq⟩ := exists_write_eq hSaved
  have hTexts : ∀ line ∈ s.buffer.texts, line.Unbroken := List.forall_mem_map.mpr hLines
  obtain ⟨known, hKnown, hCodec⟩ := hIn
  obtain rfl : name = known := Except.ok.inj (hName.symm.trans hKnown)
  have hFaithful (codec : Codec) (hOther : TextFile.encodingOf codecs name = .ok codec) :
      codec.Faithful := by
    cases hCodec.symm.trans hOther
    exact e.faithful
  obtain ⟨hCodecs, hStore, hReading, hPath, hEncoding⟩ := h
  subst hCodecs
  have hRead := TextFile.read_of_linesIn hAuto (TextFile.linesIn_of_write hWrite hFaithful hTexts)
    ⟨(Setting.lookup o.settings "io" "detect_sample_size").1,
      (Setting.lookup o.settings "io" "detect_min_confidence").1⟩
  simp only [hPath, hEncoding, hEq, startLines, hReading, Bool.not_true, Bool.false_eq_true,
    if_false, hName, hStore]
  generalize TextFile.read _ _ _ _ _ = found at hRead ⊢
  obtain ⟨result, reported⟩ := found
  cases hRead
  simp only [encodingValue_of_encodingName hName]

/-- Lines without line ends that an encoding has octets for are written, and read again
as they were, with whatever name the encoding is found, unless it is the one that stands for
detection. So a session whose lines and whose edits bring in no line end comes back
from the file it is written to: an opening that reads the file in the same encoding
shows the same lines, and opens if its masker fits them, as delimiters always do; with
the same delimiters its views are those of an opening on the lines themselves. -/
theorem reading_undoes_writing (codecs : Registry)
    (hAuto : codecs TextFile.detection = .error .unknown) :
    (∀ (store : Store) (path : String) (here : Location) (name : Option String) (e : Encoding)
      (lines : List Text), store.openForWriting path = .ok here →
      TextFile.encodingOf codecs name = .ok e.codec →
      (∀ line ∈ lines, line.Unbroken ∧ e.Encodes line) →
      ∃ after events, TextFile.write codecs store path lines name = (after, .ok (), events) ∧
        ∀ means : TextFile.Means, means.codecs = codecs → ∀ settings,
          (TextFile.read after means path name settings).1 = .ok (lines, name)) ∧
    ∀ (store : Store) (s : Session) (ops : List Operation) (path : Option String)
      (saved : Outcome) (e : Encoding), s.buffer.Unbroken → (∀ op ∈ ops, op.Unbroken) →
      (s.performAll codecs store (ops ++ [.write path])).getLast? = some saved →
      saved.answer = .ok .nothing → saved.session.IsIn codecs e →
      ∀ (w : Surroundings) (o : Opening), o.Rereads w codecs saved →
        let texts := saved.session.buffer.texts
        (∀ reopened, (start w o).1 = .ok reopened → reopened.buffer.texts = texts) ∧
        (∀ masker, (Setting.lookup o.settings "navigation" "member_keywords").1.members?.isSome →
          (startMasker w (o.path.map Path.shorten) o).1 = .ok masker → masker.Suits texts →
          ∃ reopened, (start w o).1 = .ok reopened) ∧
        ∀ ds given, o.Delimits ds → given.Delimits ds →
          ∃ reopened fresh, (start w o).1 = .ok reopened ∧ (ofLines w texts given).1 = .ok fresh ∧
            reopened.buffer.texts = texts ∧ reopened.buffer.views = fresh.buffer.views := by
  refine ⟨fun store path here name e lines hOpen hName hLines => ?_,
    fun store s ops path saved e hInitial hOps hLast hSaved hIn w o hOpening => ?_⟩
  · obtain ⟨octets, hHanded⟩ :=
      TextFile.exists_handed fun line hLine => (hLines line hLine).2
    obtain ⟨events, hWrite⟩ := TextFile.write_of_handed hOpen hName hHanded
    refine ⟨_, events, hWrite, ?_⟩
    rintro means rfl settings
    exact TextFile.read_of_linesIn hAuto (TextFile.linesIn_of_decode (Store.read_put hOpen octets)
      hName (hHanded.decode e.faithful) fun line hLine => (hLines line hLine).1) settings
  · have hStep (store : Store) (s : Session) (op : Operation) (hOp : op ∈ ops)
        (h : s.buffer.Unbroken) : (s.perform codecs store op).session.buffer.Unbroken :=
      perform_unbroken codecs store (hOps op hOp) h
    obtain ⟨store', s', hLines, hWritten⟩ := exists_last hStep (.write path) store hInitial
    obtain rfl : s'.write codecs store' path = saved := Option.some.inj (hWritten.symm.trans hLast)
    have hSame : s'.IsIn codecs e := by
      obtain ⟨target, name, after, events, -, -, hEq⟩ := exists_write_eq hSaved
      rwa [hEq] at hIn
    have hRead := startLines_of_write hAuto hSaved hLines hSame hOpening
    refine ⟨fun reopened hStart => ?_, fun masker hWords hMasker hSuits => ?_,
      fun ds given hDelimits hGiven => ?_⟩
    · obtain ⟨texts, hToMask, views, -, hShows⟩ := shows_of_start hStart
      obtain ⟨-, ⟨encoding, hFound⟩, -⟩ := toMask?_eq_some_iff.mp hToMask
      cases hRead.symm.trans hFound
      exact hShows.texts
    · obtain ⟨views, hMask, hFits⟩ := hSuits
      have hToMask := toMask?_eq_some_iff.mpr ⟨hWords, ⟨_, hRead⟩, hMasker⟩
      obtain ⟨reopened, hStart, -, -⟩ := (start_alignment hToMask).2 views hMask hFits
      exact ⟨reopened, hStart⟩
    · obtain ⟨reopened, hStart, hShows⟩ := exists_start (hDelimits.toMask? hRead)
      obtain ⟨fresh, hFresh, -, hSame⟩ :=
        exists_ofLines (s'.write codecs store' path).session.buffer.texts (hGiven.toMask?_onLines w)
      exact ⟨reopened, fresh, hStart, hFresh, hShows.texts, hShows.views.trans hSame.views.symm⟩

/-- A session on two lines, one of them empty, that is written with a mark. -/
def marked : Session :=
  ⟨.ofLines [.plain ['\uFEFF', 'x'], .plain []], some "a", .text "utf-8-sig",
    .ofDelimiters .standard, []⟩

/-- An opening that reads the file of that session. -/
def Opening.marked : Opening :=
  ⟨some "a", .null, true, none, [("io", .table .block [("encoding", .text "utf-8-sig")])]⟩

/-- A mark that is text, a line separator and an empty last line are read again. -/
theorem marked_lines_reread :
    (∃ after events, TextFile.write .common (.empty "/") "a" [['\uFEFF'], []] (some "utf-16") =
        (after, .ok (), events) ∧
      ∀ means : TextFile.Means, means.codecs = .common → ∀ settings,
        (TextFile.read after means "a" (some "utf-16") settings).1 =
          .ok ([['\uFEFF'], []], some "utf-16")) ∧
    ∃ saved reopened fresh,
      (marked.performAll .common (.empty "/") [.appendText ['\u2028'], .write none]).getLast? =
        some saved ∧
      (start ⟨saved.store, bare.means, bare.lexerFor⟩ Opening.marked).1 = .ok reopened ∧
      (ofLines ⟨saved.store, bare.means, bare.lexerFor⟩ [['\uFEFF', 'x', '\u2028'], []]
        Opening.bare).1 = .ok fresh ∧
      reopened.buffer.texts = [['\uFEFF', 'x', '\u2028'], []] ∧
      reopened.buffer.views = fresh.buffer.views := by
  have hOpen : (Store.empty "/").openForWriting "a" = .ok ["a"] := by decide +kernel
  have hLines (e : Encoding) (h : e = .utf16 ∨ e = .markedUtf8) (lines : List Text) :
      ∀ line ∈ lines, e.Encodes line := by
    rcases h with rfl | rfl <;> exact fun line _ => ⟨_, rfl⟩
  refine ⟨?_, ?_⟩
  · have hUnbroken : ∀ line ∈ [['\uFEFF'], []], Text.Unbroken line := by decide
    refine (reading_undoes_writing .common rfl).1 (.empty "/") "a" ["a"] (some "utf-16") .utf16 _
      hOpen rfl ?_
    exact fun line hLine => ⟨hUnbroken line hLine, hLines .utf16 (Or.inl rfl) _ line hLine⟩
  · let appended := marked.perform .common (.empty "/") (.appendText ['\u2028'])
    have hName : TextFile.encodingOf .common (some "utf-8-sig") =
        .ok Encoding.markedUtf8.codec := rfl
    obtain ⟨octets, hHanded⟩ := TextFile.exists_handed
      (hLines .markedUtf8 (Or.inr rfl) appended.session.buffer.texts)
    obtain ⟨events, hWrite⟩ := TextFile.write_of_handed hOpen hName hHanded
    let after := (Store.empty "/").put ["a"] octets
    have hSaved : appended.session.write .common appended.store none =
        ⟨after, appended.session, .ok .nothing, events⟩ := write_eq rfl rfl hWrite
    have hReread : Opening.marked.Rereads ⟨after, bare.means, bare.lexerFor⟩ .common
        ⟨after, appended.session, .ok .nothing, events⟩ :=
      ⟨rfl, rfl, rfl, congrArg some (by decide +kernel), rfl⟩
    obtain ⟨reopened, fresh, hStart, hFresh, hTexts, hViews⟩ :=
      ((reading_undoes_writing .common rfl).2 (.empty "/") marked [.appendText ['\u2028']] none _
        .markedUtf8 (by unfold Buffer.Unbroken; decide)
        (List.forall_mem_singleton.mpr (show Text.Unbroken _ by decide)) (congrArg some hSaved) rfl
        ⟨_, rfl, hName⟩ _ _ hReread).2.2 .standard Opening.bare ⟨rfl, rfl, fun _ => rfl, rfl⟩
        ⟨rfl, rfl, fun _ => rfl, rfl⟩
    exact ⟨_, reopened, fresh, congrArg some hSaved, hStart, hFresh, hTexts, hViews⟩

end Session

end Sightline
