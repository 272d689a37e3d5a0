import Sightline.Proofs.Session.Reopening
import Sightline.Proofs.TextFile.Writing

/-! Saving a session. A write that fails leaves the session as it was, and nothing in the
store but the file it was to go to is touched. What is in that file is what the codec has handed
over for the lines; with an encoding of this library that is all lines, or those in front of the
first it has no octets for. -/
namespace Sightline.Session

open TextFile (FailsAt Handed Spells StopsAt encodingOf)

/-- The path that a session is written to: the one that is given, or its own. -/
def target? (s : Session) (path : Option String) : Option String :=
  (path.map Path.shorten).orElse fun _ => s.path

/-- How a write with a codec went, once its file was open. All that has been handed over for the
lines is in the file: those that can be handed over are written, and the path is that of the
session then; else the write fails at a line. -/
structure HandsOver (s : Session) (codec : Codec) (target : String) (outcome : Outcome) :
    Prop where
  ends : (∃ octets, Handed codec s.buffer.texts octets) ∨
    ∃ index octets fault, StopsAt codec s.buffer.texts index octets fault
  stopped : ∀ index octets fault, StopsAt codec s.buffer.texts index octets fault →
    outcome.answer = .error (.file (.encode fault)) ∧ outcome.store.read target = .ok octets
  written : ∀ octets, Handed codec s.buffer.texts octets →
    outcome.answer = .ok .nothing ∧ outcome.session = { s with path := some target } ∧
      outcome.store.read target = .ok octets ∧
      (codec.Faithful → codec.decode octets = .ok (Text.endLines s.buffer.texts))

/-- How a write in an encoding of this library went, once its file was open. If it has octets for
all lines, the file spells them; else it spells those in front of the first it has none for. -/
structure SpellsOut (s : Session) (e : Encoding) (target : String) (outcome : Outcome) :
    Prop where
  ends : (∀ line ∈ s.buffer.texts, e.Encodes line) ∨
    ∃ index fault, FailsAt e s.buffer.texts index fault
  stopped : ∀ index fault, FailsAt e s.buffer.texts index fault →
    outcome.answer = .error (.file (.encode fault)) ∧
      ∃ octets, outcome.store.read target = .ok octets ∧
        Spells e (s.buffer.texts.take index) octets
  written : (∀ line ∈ s.buffer.texts, e.Encodes line) →
    outcome.answer = .ok .nothing ∧ outcome.session = { s with path := some target } ∧
      ∃ octets, outcome.store.read target = .ok octets ∧ Spells e s.buffer.texts octets ∧
        e.decode octets = .ok (Text.endLines s.buffer.texts)

theorem HandsOver.spellsOut {s : Session} {e : Encoding} {target : String} {outcome : Outcome}
    (h : s.HandsOver e.codec target outcome) : s.SpellsOut e target outcome where
  ends := by
    rcases h.ends with ⟨octets, hHanded⟩ | ⟨index, octets, fault, hStops⟩
    · exact .inl (TextFile.encodes_of_handed hHanded)
    · exact .inr ⟨index, fault, hStops.failsAt.1⟩
  stopped index fault hFails := by
    obtain ⟨octets, hStops⟩ := hFails.stopsAt
    obtain ⟨hAnswer, hRead⟩ := h.stopped index octets fault hStops
    exact ⟨hAnswer, octets, hRead, hStops.failsAt.2⟩
  written hAll := by
    obtain ⟨octets, hHanded⟩ := TextFile.exists_handed hAll
    obtain ⟨hAnswer, hSession, hRead, hText⟩ := h.written octets hHanded
    exact ⟨hAnswer, hSession, octets, hRead, TextFile.spells_of_handed hHanded, hText e.faithful⟩

variable {codecs : Registry} {store later : Store} {s : Session} {path name : Option String}
  {target : String}

theorem write_of_noTarget (h : s.target? path = none) (codecs : Registry) (store : Store) :
    s.write codecs store path = failed store s .noPathToWrite := by
  rw [target?] at h
  simp only [write, h]

theorem write_of_noName {fault : SettingFault} (hTarget : s.target? path = some target)
    (hName : encodingName s.encoding = .error fault) (codecs : Registry) (store : Store) :
    s.write codecs store path = failed store s (.setting fault) := by
  rw [target?] at hTarget
  simp only [write, hTarget, hName]

theorem write_of_fileFault {fault : FileFault} {events : List Event}
    (hTarget : s.target? path = some target) (hName : encodingName s.encoding = .ok name)
    (hWrite :
      TextFile.write codecs store target s.buffer.texts name = (later, .error fault, events)) :
    s.write codecs store path = ⟨later, s, .error (.file fault), events⟩ := by
  rw [target?] at hTarget
  simp only [write, hTarget, hName, hWrite]

/-- A write that fails changes nothing in the session. -/
theorem write_session_of_error {fault : SessionFault}
    (h : (s.write codecs store path).answer = .error fault) :
    (s.write codecs store path).session = s := by
  rw [write.eq_def] at h ⊢
  split
  · rfl
  · split
    · rfl
    next hTarget _ _ hName =>
      simp only [hTarget, hName] at h
      split
      · rfl
      next hWrite =>
        simp only [hWrite] at h
        cases h

/-- A name that is taken from the settings is one that an encoding can have. -/
theorem encodingOf_ne_setting {v : Value} (h : encodingName v = .ok name) (codecs : Registry)
    (fault : SettingFault) : encodingOf codecs name ≠ .error (.setting fault) := by
  intro hFault
  unfold encodingName at h
  split at h
  · cases h
    cases hFault
  · split at h
    · cases h
    next hNull =>
      cases h
      rw [encodingOf, if_neg hNull] at hFault
      split at hFault <;> cases hFault
  · cases h
  · cases h

/-- What becomes of the lines once the path is open is settled by the codec. -/
theorem handsOver_write {codec : Codec} {here : Location} (hTarget : s.target? path = some target)
    (hName : encodingName s.encoding = .ok name) (hOpen : store.openForWriting target = .ok here)
    (hCodec : encodingOf codecs name = .ok codec) :
    s.HandsOver codec target (s.write codecs store path) where
  ends := TextFile.handed_or_stopsAt codec s.buffer.texts
  stopped index octets fault hStops := by
    rw [write_of_fileFault hTarget hName (TextFile.write_of_stopsAt hOpen hCodec hStops)]
    exact ⟨rfl, Store.read_put hOpen octets⟩
  written octets hHanded := by
    obtain ⟨events, hWrite⟩ := TextFile.write_of_handed hOpen hCodec hHanded
    rw [write_eq hTarget hName hWrite]
    exact ⟨rfl, rfl, Store.read_put hOpen octets, hHanded.decode⟩

/-- Without a codec the file is emptied all the same. -/
theorem write_of_noCodec {fault : FileFault} {here : Location}
    (hTarget : s.target? path = some target) (hName : encodingName s.encoding = .ok name)
    (hOpen : store.openForWriting target = .ok here)
    (hCodec : encodingOf codecs name = .error fault) :
    s.write codecs store path = ⟨store.put here [], s, .error (.file fault), []⟩ := by
  refine write_of_fileFault hTarget hName (TextFile.write_of_noEncoding hOpen hCodec ?_ _)
  rintro setting rfl
  exact encodingOf_ne_setting hName codecs setting hCodec

/-- Once the path is open, a write puts something into the file there, and no more. -/
theorem exists_store_put {here : Location} (hTarget : s.target? path = some target)
    (hName : encodingName s.encoding = .ok name)
    (hOpen : store.openForWriting target = .ok here) (codecs : Registry) :
    ∃ octets, (s.write codecs store path).store = store.put here octets := by
  cases hCodec : encodingOf codecs name with
  | error fault => exact ⟨[], by rw [write_of_noCodec hTarget hName hOpen hCodec]⟩
  | ok codec =>
      rcases TextFile.handed_or_stopsAt codec s.buffer.texts with
        ⟨octets, hHanded⟩ | ⟨index, octets, fault, hStops⟩
      · obtain ⟨events, hWrite⟩ := TextFile.write_of_handed hOpen hCodec hHanded
        exact ⟨octets, by rw [write_eq hTarget hName hWrite]⟩
      · exact ⟨octets, by rw [write_of_fileFault hTarget hName
          (TextFile.write_of_stopsAt hOpen hCodec hStops)]⟩

/-- Whatever fails in a write, the session is as it was: its lines with their views, its cursor,
its encoding and its path. Without a path, and where the path cannot be opened for writing, the
store is as it was, too; else nothing but the file at the path is touched. It is empty if no codec
is found. With any codec the file holds what is handed over for the lines: for those in front of
the one that the write fails at, or, if it fails at none, for all of them, and then the path is
that of the session. In an encoding of this library these are the octets of the lines. -/
theorem failed_write_leaves_session (codecs : Registry) (store : Store) (s : Session)
    (path : Option String) :
    let outcome := s.perform codecs store (.write path)
    (∀ fault, outcome.answer = .error fault → outcome.session = s) ∧
    (s.target? path = none → outcome.answer = .error .noPathToWrite ∧ outcome.store = store) ∧
    ∀ target, s.target? path = some target →
      (∀ fault, encodingName s.encoding = .error fault →
        outcome.answer = .error (.setting fault) ∧ outcome.store = store) ∧
      ∀ name, encodingName s.encoding = .ok name →
        (∀ fault, store.openForWriting target = .error fault →
          outcome.answer = .error (.file (.path fault)) ∧ outcome.store = store) ∧
        ∀ here, store.openForWriting target = .ok here →
          outcome.store.AgreesOff store here ∧
          (∀ fault, encodingOf codecs name = .error fault →
            outcome.answer = .error (.file fault) ∧ outcome.store.read target = .ok []) ∧
          (∀ codec, encodingOf codecs name = .ok codec → s.HandsOver codec target outcome) ∧
          ∀ e : Encoding, encodingOf codecs name = .ok e.codec → s.SpellsOut e target outcome := by
  refine ⟨fun fault hFault => write_session_of_error hFault, fun hNone => ?_,
    fun target hTarget => ⟨fun fault hName => ?_, fun name hName => ⟨fun fault hOpen => ?_,
      fun here hOpen => ⟨?_, fun fault hCodec => ?_, fun codec hCodec => ?_,
        fun e hCodec => ?_⟩⟩⟩⟩
  · rw [perform, write_of_noTarget hNone]
    exact ⟨rfl, rfl⟩
  · rw [perform, write_of_noName hTarget hName]
    exact ⟨rfl, rfl⟩
  · obtain ⟨events, hWrite⟩ := TextFile.write_of_pathFault hOpen
      (encodingOf_ne_setting hName codecs) s.buffer.texts
    rw [perform, write_of_fileFault hTarget hName hWrite]
    exact ⟨rfl, rfl⟩
  · obtain ⟨octets, hStore⟩ := exists_store_put hTarget hName hOpen codecs
    rw [perform, hStore]
    exact Store.put_agreesOff store here octets
  · rw [perform, write_of_noCodec hTarget hName hOpen hCodec]
    exact ⟨rfl, Store.read_put hOpen []⟩
  · exact handsOver_write hTarget hName hOpen hCodec
  · exact (handsOver_write hTarget hName hOpen hCodec).spellsOut

/-- A session on three lines, the last of which is beyond the encoding it is written in. -/
def accented : Session :=
  ⟨.ofLines [.plain ['\xe9'], .plain ['x'], .plain ['y', '\u65e5']], some "b", .text "latin-1",
    .ofDelimiters .standard, []⟩

/-- The third line ends the file, and the session keeps the path it had. -/
theorem accented_lines_written_in_part :
    let outcome := accented.perform .common ⟨"/", [], [(["a"], [0x7A])]⟩ (.write (some "a"))
    outcome.answer =
      .error (.file (.encode (.strangers "latin-1" 1 ['\u65e5'] (.beyond 256)))) ∧
      outcome.session.path = some "b" ∧ outcome.store.read "a" = .ok [0xE9, 0x0A, 0x78, 0x0A] := by
  have hOpen : Store.openForWriting ⟨"/", [], [(["a"], [0x7A])]⟩ "a" = .ok ["a"] := by
    decide +kernel
  have hFails : FailsAt .latin1 accented.buffer.texts 2
      (.strangers "latin-1" 1 ['\u65e5'] (.beyond 256)) :=
    ⟨⟨_, rfl, rfl⟩, List.forall_mem_cons.mpr
      ⟨⟨[0xE9], rfl⟩, List.forall_mem_singleton.mpr ⟨[0x78], rfl⟩⟩⟩
  obtain ⟨hSession, -, hWritten⟩ :=
    failed_write_leaves_session .common ⟨"/", [], [(["a"], [0x7A])]⟩ accented (some "a")
  obtain ⟨-, hOpened⟩ := (hWritten "a" (by decide +kernel)).2 (some "latin-1") rfl
  obtain ⟨-, -, -, hSpelled⟩ := hOpened _ hOpen
  obtain ⟨hAnswer, octets, hRead, body, hBody, rfl⟩ :=
    (hSpelled .latin1 rfl).stopped 2 _ hFails
  cases hBody
  exact ⟨hAnswer, congrArg path (hSession _ hAnswer), hRead⟩

/-- A session on a line without a dot, in the encoding for labels. -/
def undotted : Session :=
  ⟨.ofLines [.plain ['x']], none, .text "idna", .ofDelimiters .standard, []⟩

/-- The label is not ended, so that nothing of the line gets into the file, though the write
succeeds. -/
theorem undotted_line_withheld :
    let outcome := undotted.perform TextFile.Means.labelling.codecs (.empty "/")
      (.write (some "out"))
    outcome.answer = .ok .nothing ∧ outcome.session.path = some "out" ∧
      outcome.session.buffer.texts = [['x']] ∧ outcome.store.read "out" = .ok [] ∧
      Codec.Label.codec.decode [] ≠ .ok ['x', '\n'] := by
  have hTarget : undotted.target? (some "out") = some "out" := congrArg some (by decide +kernel)
  have hOpen : (Store.empty "/").openForWriting "out" = .ok ["out"] := by decide +kernel
  have hName : encodingOf TextFile.Means.labelling.codecs (some "idna") =
      .ok Codec.Label.codec := rfl
  have hLine : Codec.Label.codec.encode [] ['x'] = .ok [] := by decide +kernel
  have hEnding : Codec.Label.codec.encode [['x']] ['\n'] = .ok [] := by decide +kernel
  have hHanded : Handed Codec.Label.codec undotted.buffer.texts [] :=
    .cons (.cons .nil hLine) hEnding
  obtain ⟨hAnswer, hSession, hRead, -⟩ :=
    (handsOver_write hTarget rfl hOpen hName).written [] hHanded
  intro outcome
  have hSaved : outcome.session = { undotted with path := some "out" } := hSession
  refine ⟨hAnswer, congrArg path hSaved, ?_, hRead, by decide +kernel⟩
  rw [hSaved]
  rfl

/-- No operation changes the encoding that a session is written in. -/
theorem perform_encoding (codecs : Registry) (store : Store) (s : Session) (op : Operation) :
    (s.perform codecs store op).session.encoding = s.encoding := by
  cases op with
  | seekAny candidates =>
      simp only [perform]
      split
      · rfl
      · split <;> rfl
  | seekMemberEnd | currentView | currentHas t | insertBehindBracket located t opening closing =>
      simp only [perform]
      split <;> rfl
  | write path =>
      simp only [perform, write]
      split
      · rfl
      · split
        · rfl
        · split <;> rfl
  | _ => rfl

/-- The session is opened without reading a file, on no lines or on given ones. -/
def Unread (s : Session) (w : Surroundings) (o : Opening) : Prop :=
  (o.reading = false ∧ (start w o).1 = .ok s) ∨ ∃ given, (ofLines w given o).1 = .ok s

/-- Without a file to read the encoding is the one of the settings. -/
theorem start_encoding {w : Surroundings} {o : Opening} (hReading : o.reading = false)
    (h : (start w o).1 = .ok s) : s.encoding = (Setting.lookup o.settings "io" "encoding").1 := by
  simp only [start, startLines, hReading, Bool.not_false, if_true] at h
  split at h
  · cases h
  · split at h
    · cases h
    · split at h
      · cases h
      · cases h
        rfl

theorem Unread.encoding {w : Surroundings} {o : Opening} (h : s.Unread w o) :
    s.encoding = (Setting.lookup o.settings "io" "encoding").1 := by
  rcases h with ⟨hReading, hStart⟩ | ⟨given, hGiven⟩
  · exact start_encoding hReading hStart
  · obtain ⟨opened, lines, hStart, -, rfl⟩ := exists_start_of_ofLines hGiven
    exact (start_encoding rfl hStart :)

/-- A session that has not been read from a file is written in the encoding of the settings,
whatever has become of it since: if a codec is found for it, or none is set, then exactly the lines
that the codec hands over can be saved, and what it has handed over for them is the file. In an
encoding of this library that are the lines it has octets for, and they are all in the file. The
mode for detection is no encoding to write in. It is refused, but only when the file has been
emptied. -/
theorem unread_session_saved_unless_detecting {w : Surroundings} {o : Opening} {here : Location}
    (hUnread : s.Unread w o) (ops : List Operation)
    (hTarget : (s.after (s.performAll codecs store ops)).target? path = some target)
    (hOpen : later.openForWriting target = .ok here) :
    let edited := s.after (s.performAll codecs store ops)
    let mode := (Setting.lookup o.settings "io" "encoding").1
    let texts := edited.buffer.texts
    let outcome := edited.perform codecs later (.write path)
    (∀ name codec, encodingName mode = .ok name → encodingOf codecs name = .ok codec →
      (outcome.answer = .ok .nothing ↔ ∃ octets, Handed codec texts octets) ∧
      edited.HandsOver codec target outcome) ∧
    (∀ name e, encodingName mode = .ok name → encodingOf codecs name = .ok (Encoding.codec e) →
      (outcome.answer = .ok .nothing ↔ ∀ line ∈ texts, e.Encodes line) ∧
      ((∀ line ∈ texts, e.Encodes line) →
        outcome.session = { edited with path := some target } ∧
        ∃ octets, outcome.store.read target = .ok octets ∧ Spells e texts octets ∧
          e.decode octets = .ok (Text.endLines texts))) ∧
    (codecs TextFile.detection = .error .unknown → mode = .text TextFile.detection →
      outcome.answer = .error (.file (.unknownEncoding TextFile.detection)) ∧
      outcome.session = edited ∧ outcome.store.read target = .ok []) := by
  intro edited mode texts outcome
  have hMode : edited.encoding = mode :=
    after_performAll (fun store s op hSame => (perform_encoding codecs store s op).trans hSame)
      store ops hUnread.encoding
  have hCodec (name : Option String) (codec : Codec) (hName : encodingName mode = .ok name)
      (hCodec : encodingOf codecs name = .ok codec) :
      (outcome.answer = .ok .nothing ↔ ∃ octets, Handed codec texts octets) ∧
      edited.HandsOver codec target outcome := by
    rw [← hMode] at hName
    have hOver := handsOver_write hTarget hName hOpen hCodec
    refine ⟨⟨fun hSaved => ?_, fun ⟨octets, hHanded⟩ => (hOver.written octets hHanded).1⟩, hOver⟩
    rcases hOver.ends with hHanded | ⟨index, octets, fault, hStops⟩
    · exact hHanded
    · cases hSaved.symm.trans (hOver.stopped index octets fault hStops).1
  refine ⟨hCodec, fun name e hName hEncoding => ?_, fun hAuto hDetecting => ?_⟩
  · obtain ⟨hSaved, hOver⟩ := hCodec name e.codec hName hEncoding
    exact ⟨hSaved.trans TextFile.exists_handed_iff, fun hAll => (hOver.spellsOut.written hAll).2⟩
  · have hName : encodingName edited.encoding = .ok (some TextFile.detection) := by
      rw [hMode, hDetecting]
      rfl
    have hUnknown : encodingOf codecs (some TextFile.detection) =
        .error (.unknownEncoding TextFile.detection) := by
      rw [encodingOf, if_neg (by decide), hAuto]
    have hRefused : outcome = _ := write_of_noCodec hTarget hName hOpen hUnknown
    rw [hRefused]
    exact ⟨rfl, rfl, Store.read_put hOpen []⟩

/-- A session on one line that is edited is saved without a setting for its encoding. -/
theorem appended_line_saved : ∃ s, (ofLines bare [['x']] Opening.bare).1 = .ok s ∧
    let edited := s.after (s.performAll .common (.empty "/") [.appendText ['\xe9']])
    let outcome := edited.perform .common (.empty "/") (.write (some "a"))
    outcome.answer = .ok .nothing ∧ outcome.session.path = some "a" ∧
      outcome.store.read "a" = .ok [0x78, 0xC3, 0xA9, 0x0A] := by
  have hMask : toMask? bare Opening.bare.onLines = some (.ofDelimiters .standard, []) := rfl
  obtain ⟨s, hOpened, -, hShows⟩ := exists_ofLines [['x']] hMask
  obtain ⟨lines, -, hBuffer⟩ := built_of_ofLines hOpened
  have hTexts : (s.after (s.performAll .common (.empty "/") [.appendText ['\xe9']])).buffer.texts =
      [['x', '\xe9']] := by
    obtain rfl : lines = [⟨['x'], ['x']⟩] := by
      have hLines := hShows.lines_eq
      rw [hBuffer] at hLines
      exact hLines
    simp only [performAll, after_cons, after_nil, perform, afterStep, hBuffer]
    decide +kernel
  have hTarget : (s.after (s.performAll .common (.empty "/") [.appendText ['\xe9']])).target?
      (some "a") = some "a" := congrArg some (by decide +kernel)
  have hOpen : (Store.empty "/").openForWriting "a" = .ok ["a"] := by decide +kernel
  obtain ⟨-, hKnown, -⟩ :=
    unread_session_saved_unless_detecting (.inr ⟨_, hOpened⟩) [.appendText ['\xe9']] hTarget hOpen
  obtain ⟨hSaved, hHeld⟩ := hKnown none .utf8 rfl rfl
  have hAll := hSaved.mpr fun line _ => ⟨_, rfl⟩
  obtain ⟨hSession, octets, hRead, ⟨body, hBody, rfl⟩, -⟩ := hHeld (hSaved.mp hAll)
  rw [hTexts] at hBody hRead
  cases hBody
  exact ⟨s, hOpened, hAll, congrArg path hSession, hRead⟩

/-- An opening with the mode for detection in its settings. -/
def Opening.detecting : Opening :=
  { Opening.bare with settings := [("io", .table .block [("encoding", .text "auto")])] }

/-- One plain line is not saved in the mode for detection, and the file it was to replace is
lost. -/
theorem detecting_session_empties_file :
    let store : Store := ⟨"/", [], [(["a"], [0x6F, 0x0A])]⟩
    store.read "a" = .ok [0x6F, 0x0A] ∧ store.openForWriting "a" = .ok ["a"] ∧
    ∃ s, (ofLines bare [['x']] Opening.detecting).1 = .ok s ∧
      (∀ line ∈ s.buffer.texts, Encoding.utf8.Encodes line) ∧
      let outcome := s.perform .common store (.write (some "a"))
      outcome.answer = .error (.file (.unknownEncoding "auto")) ∧
        outcome.store.read "a" = .ok [] := by
  intro store
  have hOpen : store.openForWriting "a" = .ok ["a"] := by decide +kernel
  have hMask : toMask? bare Opening.detecting.onLines = some (.ofDelimiters .standard, []) := rfl
  obtain ⟨s, hOpened, -, -⟩ := exists_ofLines [['x']] hMask
  have hEncoding : s.encoding = .text "auto" := Unread.encoding (.inr ⟨_, hOpened⟩)
  have hName : encodingName s.encoding = .ok (some "auto") := by
    rw [hEncoding]
    rfl
  have hTarget : s.target? (some "a") = some "a" := congrArg some (by decide +kernel)
  have hRefused : s.perform .common store (.write (some "a")) = _ :=
    write_of_noCodec hTarget hName hOpen rfl
  refine ⟨by decide +kernel, hOpen, s, hOpened, fun line _ => ⟨_, rfl⟩, ?_⟩
  rw [hRefused]
  exact ⟨rfl, Store.read_put hOpen []⟩

end Sightline.Session
