import Sightline.Proofs.TextFile.Normalization

/-! Reading a file whose encoding is to be detected. A candidate that is not found, or in
which the octets have a flaw, is passed over, and the last one has a text for all octets.
So only what is neither can end the search: a codec that refuses the octets in another way, as
the one of UTF-16 does without a mark, and a name that no encoding can have. -/
namespace Sightline

/-- A sample can be taken of every file, and a confidence compares with the threshold. -/
structure DetectionSettings.Usable (settings : DetectionSettings) (memory : Int) : Prop where
  sample : settings.sampleSize = .null ∨ ∃ n : Int,
    settings.sampleSize.asNumber? = some (.whole n) ∧ -1 ≤ n ∧ n < memory ∧
      n < TextFile.stringBound
  threshold : settings.minConfidence.asNumber?.isSome

/-- The detector names an encoding for a sample of some octets, and is sure enough of it. -/
def DetectionSettings.Trusts (settings : DetectionSettings) (means : TextFile.Means)
    (octets : Bytes) (name : String) : Prop :=
  ∃ taken, TextFile.sample means.memory settings.sampleSize octets = .ok taken ∧ taken ≠ [] ∧
    (means.detector taken).encoding = some name ∧ name ≠ "" ∧
    TextFile.reaches (means.detector taken).sureness settings.minConfidence = .ok true

/-- A confidence that is a whole number is not beyond the floating ones. -/
def Guess.Bounded (guess : Guess) : Prop :=
  ∀ n sign, guess.confidence = some (.whole n) → Binary64.ofInt n ≠ .infinite sign

/-- A sample of some octets can be taken, the answer of the detector to it can be reported, and its
confidence compares with the threshold if it is an answer that names something. -/
def DetectionSettings.Works (settings : DetectionSettings) (means : TextFile.Means)
    (octets : Bytes) : Prop :=
  ∃ taken, TextFile.sample means.memory settings.sampleSize octets = .ok taken ∧
    (taken ≠ [] → (means.detector taken).Bounded ∧
      ((means.detector taken).encoding.getD "" ≠ "" → settings.minConfidence.asNumber?.isSome))

/-- The names that are always tried are those of the encodings they are named for. -/
structure Registry.Regular (codecs : Registry) : Prop where
  utf8 : codecs "utf-8" = .ok Encoding.utf8.codec
  latin1 : codecs "latin-1" = .ok Encoding.latin1.codec

namespace Encoding

theorem finish_eq_error {codec : String} {early : Bytes → Codec.Reason}
    {told : Codec.Flaw → Codec.Flaw} {d : Codec.Decoded} {reason : Codec.DecodeFault}
    (h : finish codec early told d = .error reason) : ∃ flaw, reason = .flaw codec flaw := by
  unfold finish at h
  split at h
  · cases h
  · cases h
    exact ⟨_, rfl⟩
  · cases h
    exact ⟨_, rfl⟩

/-- Octets that an encoding does not read have a flaw, or they lack the mark of UTF-16. -/
theorem flaw_or_missingMark {e : Encoding} {octets : Bytes} {reason : Codec.DecodeFault}
    (h : e.decode octets = .error reason) :
    (∃ codec flaw, reason = .flaw codec flaw) ∨ e = utf16 ∧ reason = .missingMark := by
  have hFlaw {codec : String} {early : Bytes → Codec.Reason} {told : Codec.Flaw → Codec.Flaw}
      {d : Codec.Decoded} (hFinish : finish codec early told d = .error reason) :
      (∃ codec flaw, reason = .flaw codec flaw) ∨ e = utf16 ∧ reason = .missingMark :=
    .inl ⟨codec, finish_eq_error hFinish⟩
  cases e with
  | latin1 => cases h
  | utf8 | ascii => exact hFlaw h
  | markedUtf8 =>
      simp only [decode] at h
      split at h
      · exact hFlaw h
      · cases h
      · cases h
      · exact hFlaw h
  | utf16 =>
      simp only [decode] at h
      split at h
      · exact hFlaw h
      · exact hFlaw h
      · unfold decodeUnmarked at h
        split at h
        · exact .inr ⟨rfl, (Except.error.inj h).symm⟩
        · exact hFlaw h
        · split at h
          · exact hFlaw h
          · exact .inr ⟨rfl, (Except.error.inj h).symm⟩

end Encoding

namespace TextFile

variable {codecs : Registry} {means : Means} {store : Store} {path name : String}
  {names : List String} {settings : DetectionSettings} {octets : Bytes} {fault : FileFault}

/-- What ends the search for an encoding at a name, for the octets of a file. -/
inductive Stops (codecs : Registry) (octets : Bytes) (name : String) : FileFault → Prop where
  /-- The codec of that name needs a mark, and the octets do not start with one. -/
  | unmarked {codec : Codec} (hName : encodingOf codecs (some name) = .ok codec)
      (hText : codec.decode octets = .error .missingMark) :
      Stops codecs octets name (.decode .missingMark)
  /-- The codec of that name refuses the octets without telling which. -/
  | refused {codec : Codec} {message : String} (hName : encodingOf codecs (some name) = .ok codec)
      (hText : codec.decode octets = .error (.refused message)) :
      Stops codecs octets name (.decode (.refused message))
  /-- The name holds the character with number zero. -/
  | nullName (hNull : Text.holdsNull name.toList = true) :
      Stops codecs octets name (.setting .encodingNull)

/-- Why a name is passed over, for the octets of a file. -/
inductive Passed (codecs : Registry) (octets : Bytes) (name : String) : FileFault → Prop where
  /-- No encoding has the name. -/
  | unknown (hName : encodingOf codecs (some name) = .error (.unknownEncoding name)) :
      Passed codecs octets name (.unknownEncoding name)
  /-- No encoding of text has the name. -/
  | notText (hName : encodingOf codecs (some name) = .error (.notTextEncoding name)) :
      Passed codecs octets name (.notTextEncoding name)
  /-- The octets have a flaw in the encoding of that name. -/
  | flawed {codec : Codec} {told : String} {flaw : Codec.Flaw}
      (hName : encodingOf codecs (some name) = .ok codec)
      (hText : codec.decode octets = .error (.flaw told flaw)) :
      Passed codecs octets name (.decode (.flaw told flaw))
  /-- The codec of that name lacks what it needs for the octets. -/
  | missing {codec : Codec} {message : String} (hName : encodingOf codecs (some name) = .ok codec)
      (hText : codec.decode octets = .error (.missing message)) :
      Passed codecs octets name (.decode (.missing message))

theorem Stops.not_isPassedOver (h : Stops codecs octets name fault) :
    ¬fault.isPassedOver = true := by
  cases h <;> exact Bool.false_ne_true

theorem Passed.isPassedOver (h : Passed codecs octets name fault) : fault.isPassedOver = true := by
  cases h <;> rfl

theorem linesIn_of_encodingOf {codec : Codec} (hFile : store.read path = .ok octets)
    (hName : encodingOf codecs (some name) = .ok codec) :
    linesIn codecs store path (some name) =
      ((codec.decode octets).mapError .decode).map Text.linesOf := by
  simp only [linesIn, hFile, hName]
  cases codec.decode octets <;> rfl

/-- A name that has no lines ends the search, or it is passed over. -/
theorem stops_or_passed (hFile : store.read path = .ok octets)
    (h : linesIn codecs store path (some name) = .error fault) :
    Stops codecs octets name fault ∨ Passed codecs octets name fault := by
  cases hName : encodingOf codecs (some name) with
  | error reason =>
      simp only [linesIn, hFile, hName] at h
      rw [encodingOf] at hName
      split at hName
      next hNull =>
        cases hName
        cases h
        exact .inl (.nullName hNull)
      next hNull =>
        split at hName
        · cases hName
        next hUnknown =>
          cases hName
          cases h
          exact .inr (.unknown (by rw [encodingOf, if_neg hNull, hUnknown]))
        next hNotText =>
          cases hName
          cases h
          exact .inr (.notText (by rw [encodingOf, if_neg hNull, hNotText]))
  | ok codec =>
      rw [linesIn_of_encodingOf hFile hName] at h
      cases hText : codec.decode octets with
      | ok s =>
          rw [hText] at h
          cases h
      | error reason =>
          rw [hText] at h
          cases h
          cases reason with
          | flaw told flaw => exact .inr (.flawed hName hText)
          | missingMark => exact .inl (.unmarked hName hText)
          | missing message => exact .inr (.missing hName hText)
          | refused message => exact .inl (.refused hName hText)

/-- The search ends at a name exactly for what is no flaw and no lack of an encoding. -/
theorem stops_iff (hFile : store.read path = .ok octets) :
    linesIn codecs store path (some name) = .error fault ∧ ¬fault.isPassedOver = true ↔
      Stops codecs octets name fault := by
  constructor
  · rintro ⟨hLines, hNot⟩
    exact (stops_or_passed hFile hLines).resolve_right fun hPassed => hNot hPassed.isPassedOver
  · intro hStops
    refine ⟨?_, hStops.not_isPassedOver⟩
    rcases hStops with ⟨hName, hText⟩ | ⟨hName, hText⟩ | hNull
    · rw [linesIn_of_encodingOf hFile hName, hText]
      rfl
    · rw [linesIn_of_encodingOf hFile hName, hText]
      rfl
    · simp only [linesIn, encodingOf, hNull, if_true]

theorem readFirst_of_isPassedOver (hLines : linesIn codecs store path (some name) = .error fault)
    (h : fault.isPassedOver = true) :
    (readFirst codecs store path (name :: names)).1 = (readFirst codecs store path names).1 := by
  simp only [readFirst, hLines]
  split
  · rfl
  next hNot => exact absurd h hNot

theorem readFirst_of_not_isPassedOver
    (hLines : linesIn codecs store path (some name) = .error fault)
    (h : ¬fault.isPassedOver = true) :
    (readFirst codecs store path (name :: names)).1 = .error fault := by
  simp only [readFirst, hLines]
  split
  next hSkipped => exact absurd hSkipped h
  · rfl

/-- The search for an encoding passes over names up to the first that is not passed over, and ends
there: with the lines of the file, or with a fault. -/
theorem readFirst_cases (codecs : Registry) (hFile : store.read path = .ok octets)
    (names : List String) :
    (∃ before name behind, names = before ++ name :: behind ∧
      (∀ other ∈ before, ∃ fault, Passed codecs octets other fault) ∧
      ((∃ lines, linesIn codecs store path (some name) = .ok lines ∧
          (readFirst codecs store path names).1 = .ok (lines, some name)) ∨
        ∃ fault, Stops codecs octets name fault ∧
          (readFirst codecs store path names).1 = .error fault)) ∨
    (∀ name ∈ names, ∃ fault, Passed codecs octets name fault) ∧
      (readFirst codecs store path names).1 = .error (.undecodable path) := by
  induction names with
  | nil => exact .inr ⟨List.forall_mem_nil _, rfl⟩
  | cons name names ih =>
      cases hLines : linesIn codecs store path (some name) with
      | ok lines =>
          refine .inl ⟨[], name, names, rfl, List.forall_mem_nil _, .inl ⟨lines, hLines, ?_⟩⟩
          simp only [readFirst, hLines]
      | error fault =>
          rcases stops_or_passed hFile hLines with hStops | hFirst
          · exact .inl ⟨[], name, names, rfl, List.forall_mem_nil _,
              .inr ⟨fault, hStops, readFirst_of_not_isPassedOver hLines hStops.not_isPassedOver⟩⟩
          · rw [readFirst_of_isPassedOver hLines hFirst.isPassedOver]
            rcases ih with ⟨before, other, behind, rfl, hPassed, hEnd⟩ | ⟨hPassed, hNone⟩
            · exact .inl ⟨name :: before, other, behind, rfl,
                List.forall_mem_cons.mpr ⟨⟨fault, hFirst⟩, hPassed⟩, hEnd⟩
            · exact .inr ⟨List.forall_mem_cons.mpr ⟨⟨fault, hFirst⟩, hPassed⟩, hNone⟩

theorem mem_withFallbacks : name ∈ withFallbacks names ↔
    name ∈ names ∨ name = "utf-8" ∨ name = "latin-1" := by
  simp only [withFallbacks, List.foldl]
  split_ifs with hUtf8 hLatin1 hLatin1
  all_goals grind

theorem prefix_withFallbacks (names : List String) : names <+: withFallbacks names := by
  simp only [withFallbacks, List.foldl]
  split_ifs
  · exact List.prefix_rfl
  · exact List.prefix_append _ _
  · exact List.prefix_append _ _
  · exact ⟨["utf-8", "latin-1"], by simp⟩

theorem exists_sample {memory : Int} (h : settings.Usable memory) (octets : Bytes) :
    ∃ taken, sample memory settings.sampleSize octets = .ok taken := by
  rcases h.sample with hNull | ⟨n, hNumber, hLow, hHigh, hString⟩
  · rw [hNull]
    exact ⟨octets, rfl⟩
  · have hBound : stringBound < 9223372036854775808 := by decide
    unfold sample
    split
    · exact ⟨octets, rfl⟩
    next m hWhole _ =>
      obtain rfl : n = m := by simpa [hNumber] using hWhole
      have hMachine : ¬(n < -9223372036854775808 || 9223372036854775808 ≤ n) = true := by
        simp only [Bool.or_eq_true, decide_eq_true_eq]
        omega
      rw [if_neg hMachine]
      by_cases hAll : n = -1
      · exact ⟨octets, by rw [if_pos hAll]⟩
      · rw [if_neg hAll, if_neg (by omega), if_neg (by omega), if_neg (by omega)]
        exact ⟨octets.take n.toNat, rfl⟩
    next hOther => exact absurd hNumber (hOther n)

theorem exists_guessNote {guess : Guess} (h : guess.Bounded) (path : String) :
    ∃ note, guessNote path guess = .ok note := by
  have hPlaces : ∃ places, places2 guess.sureness = .ok places := by
    rw [Guess.sureness]
    split
    · exact ⟨_, rfl⟩
    next n hConfidence =>
      split_ifs
      · exact ⟨_, rfl⟩
      · cases n with
        | floating x => exact ⟨_, rfl⟩
        | whole n =>
            rw [places2]
            split
            next sign hInfinite => exact absurd hInfinite (h n sign hConfidence)
            · exact ⟨_, rfl⟩
  obtain ⟨places, hPlaces⟩ := hPlaces
  rw [guessNote, hPlaces]
  exact ⟨_, rfl⟩

theorem exists_guessed (guess : Guess) {threshold : Value}
    (h : guess.encoding.getD "" ≠ "" → threshold.asNumber?.isSome) :
    ∃ trusted : Option String, guessed guess threshold = .ok trusted.toList ∧
      ∀ name, trusted = some name ↔ guess.encoding = some name ∧ name ≠ "" ∧
        reaches guess.sureness threshold = .ok true := by
  rw [guessed.eq_def]
  split
  next hNone => exact ⟨none, rfl, by simp [hNone]⟩
  next hEmpty => exact ⟨none, rfl, by grind⟩
  next name hEmpty hName =>
    obtain ⟨least, hLeast⟩ := Option.isSome_iff_exists.mp (h (by rwa [hName, Option.getD_some]))
    have hReaches : reaches guess.sureness threshold = .ok (least.le guess.sureness) := by
      rw [reaches, hLeast]
    rw [hReaches, Except.map]
    cases hSure : least.le guess.sureness with
    | false => exact ⟨none, rfl, by simp⟩
    | true => exact ⟨some name, rfl, by grind⟩

/-- The candidates are the name that is trusted, if one is, and the two that are always tried. -/
theorem exists_candidates_of_works (hFile : store.read path = .ok octets)
    (h : settings.Works means octets) :
    ∃ trusted : Option String,
      (∀ name, trusted = some name ↔ settings.Trusts means octets name) ∧
      (candidates store means path settings).1 = .ok (withFallbacks trusted.toList) := by
  obtain ⟨taken, hTaken, hAnswer⟩ := h
  cases taken with
  | nil =>
      refine ⟨none, fun name => ?_, ?_⟩
      · simp [DetectionSettings.Trusts, hTaken]
      · simp only [candidates, hFile, hTaken]
        rfl
  | cons b rest =>
      obtain ⟨hBounded, hThreshold⟩ := hAnswer (List.cons_ne_nil b rest)
      obtain ⟨note, hNote⟩ := exists_guessNote hBounded path
      obtain ⟨trusted, hGuessed, hTrusted⟩ := exists_guessed (means.detector (b :: rest)) hThreshold
      refine ⟨trusted, fun name => ?_, ?_⟩
      · rw [hTrusted]
        simp [DetectionSettings.Trusts, hTaken]
      · simp only [candidates, hFile, hTaken, hNote, hGuessed]

theorem exists_candidates (hFile : store.read path = .ok octets)
    (hSettings : settings.Usable means.memory) (hAnswer : ∀ taken, (means.detector taken).Bounded) :
    ∃ trusted : Option String,
      (∀ name, trusted = some name ↔ settings.Trusts means octets name) ∧
      (candidates store means path settings).1 = .ok (withFallbacks trusted.toList) := by
  obtain ⟨taken, hTaken⟩ := exists_sample hSettings octets
  exact exists_candidates_of_works hFile
    ⟨taken, hTaken, fun _ => ⟨hAnswer taken, fun _ => hSettings.threshold⟩⟩

theorem read_of_candidates (h : (candidates store means path settings).1 = .ok names) :
    (read store means path (some detection) settings).1 =
      (readFirst means.codecs store path names).1 := by
  rw [read, if_pos rfl]
  rcases hCandidates : candidates store means path settings with ⟨⟨fault⟩ | ⟨found⟩, events⟩
  · simp [hCandidates] at h
  · rw [hCandidates] at h
    cases h
    rfl

/-- Of the encodings of this library none but UTF-16 ends the search, for the lack of a mark. -/
theorem Stops.of_encoding {e : Encoding} (h : Stops codecs octets name fault)
    (hName : encodingOf codecs (some name) = .ok e.codec) :
    e = .utf16 ∧ fault = .decode .missingMark := by
  rcases h with ⟨hCodec, hText⟩ | ⟨hCodec, hText⟩ | hNull
  · cases hName.symm.trans hCodec
    obtain ⟨_, _, hFlaw⟩ | ⟨rfl, -⟩ := Encoding.flaw_or_missingMark hText
    · cases hFlaw
    · exact ⟨rfl, rfl⟩
  · cases hName.symm.trans hCodec
    obtain ⟨_, _, hFlaw⟩ | ⟨-, hMark⟩ := Encoding.flaw_or_missingMark hText
    · cases hFlaw
    · cases hMark
  · rw [encodingOf, if_pos hNull] at hName
    cases hName

theorem encodingOf_utf8 (h : codecs.Regular) :
    encodingOf codecs (some "utf-8") = .ok Encoding.utf8.codec := by
  rw [encodingOf, if_neg (by decide), h.utf8]

theorem encodingOf_latin1 (h : codecs.Regular) :
    encodingOf codecs (some "latin-1") = .ok Encoding.latin1.codec := by
  rw [encodingOf, if_neg (by decide), h.latin1]

/-- A name that is always tried does not end the search. -/
theorem not_stops_fallback (hCodecs : codecs.Regular) (h : name = "utf-8" ∨ name = "latin-1") :
    ¬Stops codecs octets name fault := by
  intro hStops
  rcases h with rfl | rfl
  · cases (hStops.of_encoding (encodingOf_utf8 hCodecs)).1
  · cases (hStops.of_encoding (encodingOf_latin1 hCodecs)).1

/-- Latin-1 has a text for all octets, so it is not passed over. -/
theorem not_passed_latin1 (hCodecs : codecs.Regular) : ¬Passed codecs octets "latin-1" fault := by
  have hLatin1 := encodingOf_latin1 hCodecs
  rintro (hName | hName | ⟨hName, hText⟩ | ⟨hName, hText⟩)
  · cases hLatin1.symm.trans hName
  · cases hLatin1.symm.trans hName
  · cases hLatin1.symm.trans hName
    cases hText
  · cases hLatin1.symm.trans hName
    cases hText

/-- Among names of which Latin-1 is one the search ends at one of them. -/
theorem readFirst_ends (hCodecs : codecs.Regular) (hFile : store.read path = .ok octets)
    (h : "latin-1" ∈ names) :
    ∃ name ∈ names,
      (∃ lines, linesIn codecs store path (some name) = .ok lines ∧
        (readFirst codecs store path names).1 = .ok (lines, some name)) ∨
      ∃ fault, Stops codecs octets name fault ∧
        (readFirst codecs store path names).1 = .error fault := by
  rcases readFirst_cases codecs hFile names with ⟨_, name, _, rfl, -, hEnd⟩ | ⟨hPassed, -⟩
  · exact ⟨name, List.mem_append_cons_self, hEnd⟩
  · obtain ⟨_, hLatin1⟩ := hPassed _ h
    exact absurd hLatin1 (not_passed_latin1 hCodecs)

/-- A file whose encoding is to be detected is read, whatever its octets are and whatever the
detector makes of them, unless the name that the detector is sure of ends the search: that of a
codec which refuses the octets without a flaw to tell, as of the encodings of this library that
of UTF-16 does without a mark, or a name with the character number zero. Latin-1 is always among
the candidates, and has a text for all octets. What is read are the lines of the file in the
encoding that is returned, one of the candidates. -/
theorem detection_ends_iff (hFile : store.read path = .ok octets) (hCodecs : means.codecs.Regular)
    (hSettings : settings.Usable means.memory)
    (hAnswer : ∀ taken, (means.detector taken).Bounded) :
    (∃ names, (candidates store means path settings).1 = .ok names ∧ "latin-1" ∈ names) ∧
    (∃ codec s, encodingOf means.codecs (some "latin-1") = .ok codec ∧
      codec.decode octets = .ok s) ∧
    (∀ fault, (read store means path (some detection) settings).1 = .error fault ↔
      ∃ name, settings.Trusts means octets name ∧ Stops means.codecs octets name fault) ∧
    (∀ name (e : Encoding) fault, encodingOf means.codecs (some name) = .ok e.codec →
      Stops means.codecs octets name fault → e = .utf16 ∧ fault = .decode .missingMark) ∧
    ∀ lines name, (read store means path (some detection) settings).1 = .ok (lines, name) →
      linesIn means.codecs store path name = .ok lines ∧ ∃ known, name = some known ∧
        (settings.Trusts means octets known ∨ known = "utf-8" ∨ known = "latin-1") := by
  obtain ⟨trusted, hTrusted, hCandidates⟩ :=
    exists_candidates hFile hSettings hAnswer
  have hTried (name : String) : name ∈ withFallbacks trusted.toList ↔
      settings.Trusts means octets name ∨ name = "utf-8" ∨ name = "latin-1" := by
    rw [mem_withFallbacks, Option.mem_toList, hTrusted]
  have hLatin1 : "latin-1" ∈ withFallbacks trusted.toList := (hTried _).mpr (.inr (.inr rfl))
  obtain ⟨last, hLast, hEnd⟩ := readFirst_ends hCodecs hFile hLatin1
  rw [read_of_candidates hCandidates]
  refine ⟨⟨_, hCandidates, hLatin1⟩, ⟨_, _, encodingOf_latin1 hCodecs, rfl⟩,
    fun fault => ⟨fun hFault => ?_, ?_⟩, fun name e fault hName hStops => hStops.of_encoding hName,
    fun lines name hLines => ?_⟩
  · rcases hEnd with ⟨lines, -, hRead⟩ | ⟨reason, hStops, hRead⟩
    · cases hFault.symm.trans hRead
    · cases hFault.symm.trans hRead
      rcases (hTried last).mp hLast with hTrusts | hFallback
      · exact ⟨last, hTrusts, hStops⟩
      · exact absurd hStops (not_stops_fallback hCodecs hFallback)
  · rintro ⟨name, hTrusts, hStops⟩
    obtain rfl := (hTrusted name).mpr hTrusts
    obtain ⟨rest, hNames⟩ := prefix_withFallbacks [name]
    obtain ⟨hReason, hNot⟩ := (stops_iff hFile).mpr hStops
    rw [Option.toList_some, ← hNames]
    exact readFirst_of_not_isPassedOver hReason hNot
  · rcases hEnd with ⟨found, hFound, hRead⟩ | ⟨reason, -, hRead⟩
    · cases hLines.symm.trans hRead
      exact ⟨hFound, last, rfl, (hTried last).mp hLast⟩
    · cases hLines.symm.trans hRead

theorem regular_common : Registry.common.Regular := ⟨rfl, rfl⟩

/-- The encodings of this library, and a detector that takes every sample for UTF-16. -/
def Means.sureOfUtf16 : Means :=
  ⟨.common, fun _ => ⟨some "utf-16", some (.floating (.ofDecimal false 9 (-1)))⟩, stringBound⟩

/-- A file of one octet that is neither UTF-16 nor UTF-8. -/
def oddOctet : Store := ⟨"/", [], [(["f"], [0xE9])]⟩

/-- The guess has a flaw there, as UTF-8 has, and the file is read all the same. -/
theorem flawed_guess_passed_over :
    oddOctet.read "f" = .ok [0xE9] ∧ Means.sureOfUtf16.codecs.Regular ∧
    ({} : DetectionSettings).Usable Means.sureOfUtf16.memory ∧
    (∀ taken, (Means.sureOfUtf16.detector taken).Bounded) ∧
    ({} : DetectionSettings).Trusts .sureOfUtf16 [0xE9] "utf-16" ∧
    ∃ lines name, (read oddOctet .sureOfUtf16 "f" (some detection) {}).1 = .ok (lines, name) ∧
      linesIn .common oddOctet "f" name = .ok lines := by
  have hFile : oddOctet.read "f" = .ok [0xE9] := by decide +kernel
  have hUsable : ({} : DetectionSettings).Usable Means.sureOfUtf16.memory :=
    ⟨.inr ⟨20480, rfl, by decide, by decide, by decide⟩, rfl⟩
  have hBounded : ∀ taken, (Means.sureOfUtf16.detector taken).Bounded :=
    fun taken n sign h => by cases h
  have hTrusts : ({} : DetectionSettings).Trusts .sureOfUtf16 [0xE9] "utf-16" :=
    ⟨[0xE9], rfl, by decide, rfl, by decide, by decide +kernel⟩
  obtain ⟨-, -, hEnds, hStopped, hFound⟩ :=
    detection_ends_iff hFile regular_common hUsable hBounded
  refine ⟨hFile, regular_common, hUsable, hBounded, hTrusts, ?_⟩
  cases hRead : (read oddOctet .sureOfUtf16 "f" (some detection) {}).1 with
  | ok found => exact ⟨found.1, found.2, rfl, (hFound found.1 found.2 hRead).1⟩
  | error fault =>
      obtain ⟨name, ⟨taken, -, -, hName, -⟩, hStops⟩ := (hEnds fault).mp hRead
      cases hName
      obtain ⟨-, rfl⟩ := hStopped "utf-16" .utf16 fault rfl hStops
      exact absurd hRead (by decide +kernel)

/-- Two octets that are text in UTF-8 but one character without a mark in UTF-16. -/
def unmarked : Store := ⟨"/", [], [(["f"], [0x61, 0x62])]⟩

/-- The lack of a mark is no flaw to detection, so the guess ends it in front of UTF-8. -/
theorem unmarked_guess_ends_detection :
    unmarked.read "f" = .ok [0x61, 0x62] ∧
    Encoding.utf8.decode [0x61, 0x62] = .ok ['a', 'b'] ∧
    (read unmarked .sureOfUtf16 "f" (some detection) {}).1 =
      .error (.decode .missingMark) := by
  decide +kernel

end TextFile

end Sightline
