import Sightline.Proofs.TextFile.Detection

/-! The candidates for the encoding of a file, and what comes of them. The name that a detector is
sure of stands in front of the two that are always tried, and is not tried again among them.
Detection reads a file as the first candidate does that fits, asked for by its name. -/
namespace Sightline.TextFile

variable {codecs : Registry} {means : Means} {store : Store} {path : String} {name : Option String}
  {names : List String} {settings : DetectionSettings} {octets : Bytes} {lines : List Text}

/-- The lines are those of the first candidate that is not passed over. -/
theorem readFirst_parts (hFile : store.read path = .ok octets)
    (h : (readFirst codecs store path names).1 = .ok (lines, name)) :
    ∃ before known behind, names = before ++ known :: behind ∧ name = some known ∧
      ∀ other ∈ before, ∃ fault, Passed codecs octets other fault := by
  rcases readFirst_cases codecs hFile names with
    ⟨before, known, behind, hNames, hPassed, ⟨_, -, hRead⟩ | ⟨_, -, hRead⟩⟩ | ⟨-, hRead⟩
  · cases h.symm.trans hRead
    exact ⟨before, known, behind, hNames, rfl, hPassed⟩
  · cases h.symm.trans hRead
  · cases h.symm.trans hRead

theorem exists_candidates_of_read
    (h : (read store means path (some detection) settings).1 = .ok (lines, name)) :
    ∃ names, (candidates store means path settings).1 = .ok names := by
  rw [read, if_pos rfl] at h
  split at h
  · cases h
  next hCandidates => exact ⟨_, by rw [hCandidates]⟩

theorem bounded_of_guessNote {guess : Guess} {note : Event} (h : guessNote path guess = .ok note) :
    guess.Bounded := by
  intro n sign hConfidence hInfinite
  have hSure : guess.sureness = .whole n := by
    rw [Guess.sureness, hConfidence]
    refine if_neg fun hZero => ?_
    obtain rfl : n = 0 := of_decide_eq_true hZero
    exact absurd hInfinite (by cases sign <;> decide +kernel)
  rw [guessNote, hSure, places2, hInfinite] at h
  cases h

theorem isSome_of_guessed {guess : Guess} {threshold : Value}
    (h : guessed guess threshold = .ok names) (hNamed : guess.encoding.getD "" ≠ "") :
    threshold.asNumber?.isSome := by
  rw [guessed.eq_def] at h
  split at h
  next hNone => exact absurd (by rw [hNone]; rfl) hNamed
  next hEmpty => exact absurd (by rw [hEmpty]; rfl) hNamed
  · cases hNumber : threshold.asNumber? with
    | none => simp [reaches, hNumber, Except.map] at h
    | some least => rfl

theorem works_of_candidates (hFile : store.read path = .ok octets)
    (h : (candidates store means path settings).1 = .ok names) :
    settings.Works means octets := by
  rw [candidates, hFile] at h
  simp only at h
  split at h
  · cases h
  next hSample => exact ⟨[], hSample, fun hSome => absurd rfl hSome⟩
  next b rest hSample =>
    refine ⟨b :: rest, hSample, fun _ => ?_⟩
    split at h
    · cases h
    next hNote =>
      split at h
      next hGuessed => exact ⟨bounded_of_guessNote hNote, isSome_of_guessed hGuessed⟩
      · cases h

/-- The names that are always tried are named once each, also if one of them is trusted. -/
theorem withFallbacks_toList (trusted : Option String) : withFallbacks trusted.toList =
    trusted.toList ++ ["utf-8", "latin-1"].filter fun name => trusted ≠ some name := by
  cases trusted with
  | none => rfl
  | some name =>
      by_cases hUtf8 : name = "utf-8"
      · subst hUtf8
        rfl
      · by_cases hLatin1 : name = "latin-1"
        · subst hLatin1
          rfl
        · simp [withFallbacks, hUtf8, hLatin1, Ne.symm hUtf8, Ne.symm hLatin1]

theorem nodup_withFallbacks (trusted : Option String) : (withFallbacks trusted.toList).Nodup := by
  have hFallbacks : ["utf-8", "latin-1"].Nodup := by decide
  cases trusted with
  | none => exact hFallbacks
  | some name =>
      rw [withFallbacks_toList]
      exact List.nodup_cons.mpr ⟨by simp [List.mem_filter], hFallbacks.filter _⟩

/-- A list of candidates is made exactly if the settings work with the detector's answer. It holds
the name that is trusted, if one is, and behind it the two that are always tried, but not the same
name again. What detection reads is read just so by the name of one of them, whatever the detector
and the settings are then, and each one in front of that name is passed over for a reason. -/
theorem detection_agrees_with_naming (hAuto : means.codecs detection = .error .unknown)
    (hFile : store.read path = .ok octets) :
    ((∃ names, (candidates store means path settings).1 = .ok names) ↔
      settings.Works means octets) ∧
    (∀ names, (candidates store means path settings).1 = .ok names →
      names.Nodup ∧ "utf-8" ∈ names ∧ "latin-1" ∈ names ∧ ∃ trusted : Option String,
        (∀ name, trusted = some name ↔ settings.Trusts means octets name) ∧
        names = trusted.toList ++ ["utf-8", "latin-1"].filter fun name => trusted ≠ some name) ∧
    ∀ lines name, (read store means path (some detection) settings).1 = .ok (lines, name) →
      ∃ before known behind, name = some known ∧
        (candidates store means path settings).1 = .ok (before ++ known :: behind) ∧
        (∀ again : Means, again.codecs = means.codecs → ∀ settings,
          (read store again path (some known) settings).1 = .ok (lines, some known)) ∧
        ∀ other ∈ before, ∃ fault, Passed means.codecs octets other fault := by
  refine ⟨⟨fun ⟨names, hNames⟩ => works_of_candidates hFile hNames, fun hWorks => ?_⟩,
    fun names hNames => ?_, fun lines name hRead => ?_⟩
  · obtain ⟨trusted, -, hCandidates⟩ := exists_candidates_of_works hFile hWorks
    exact ⟨_, hCandidates⟩
  · obtain ⟨trusted, hTrusted, hCandidates⟩ :=
      exists_candidates_of_works hFile (works_of_candidates hFile hNames)
    obtain rfl : names = withFallbacks trusted.toList :=
      Except.ok.inj (hNames.symm.trans hCandidates)
    exact ⟨nodup_withFallbacks trusted, mem_withFallbacks.mpr (.inr (.inl rfl)),
      mem_withFallbacks.mpr (.inr (.inr rfl)), trusted, hTrusted, withFallbacks_toList trusted⟩
  · obtain ⟨names, hCandidates⟩ := exists_candidates_of_read hRead
    rw [read_of_candidates hCandidates] at hRead
    obtain ⟨before, known, behind, rfl, rfl, hPassed⟩ := readFirst_parts hFile hRead
    refine ⟨before, known, behind, rfl, hCandidates, fun again hCodecs settings => ?_, hPassed⟩
    have hLines := linesIn_of_readFirst hRead
    rw [← hCodecs] at hAuto hLines
    exact read_of_linesIn hAuto hLines settings

/-- The name that the detector is sure of comes first, and Latin-1 is left when it and UTF-8 have
a flaw. -/
theorem oddOctet_read_by_name :
    Means.sureOfUtf16.codecs detection = .error .unknown ∧ oddOctet.read "f" = .ok [0xE9] ∧
    (candidates oddOctet .sureOfUtf16 "f" {}).1 = .ok ["utf-16", "utf-8", "latin-1"] ∧
    (read oddOctet .sureOfUtf16 "f" (some detection) {}).1 = .ok ([['\xe9']], some "latin-1") ∧
    (∀ again : Means, again.codecs = .common → ∀ settings,
      (read oddOctet again "f" (some "latin-1") settings).1 = .ok ([['\xe9']], some "latin-1")) ∧
    ∀ other ∈ ["utf-16", "utf-8"], ∃ fault, Passed .common [0xE9] other fault := by
  have hAuto : Means.sureOfUtf16.codecs detection = .error .unknown := rfl
  have hFile : oddOctet.read "f" = .ok [0xE9] := by decide +kernel
  have hCandidates : (candidates oddOctet .sureOfUtf16 "f" {}).1 =
      .ok ["utf-16", "utf-8", "latin-1"] := by decide +kernel
  have hRead : (read oddOctet .sureOfUtf16 "f" (some detection) {}).1 =
      .ok ([['\xe9']], some "latin-1") := by decide +kernel
  obtain ⟨-, -, hAgrees⟩ := detection_agrees_with_naming hAuto hFile
  obtain ⟨before, known, behind, hName, hNames, hNamed, hPassed⟩ := hAgrees _ _ hRead
  obtain rfl := Option.some.inj hName
  have hParts : ["utf-16", "utf-8", "latin-1"] = before ++ "latin-1" :: behind :=
    Except.ok.inj (hCandidates.symm.trans hNames)
  obtain rfl : before = ["utf-16", "utf-8"] := by
    obtain _ | ⟨first, _ | ⟨second, _ | ⟨third, rest⟩⟩⟩ := before <;> simp_all
  exact ⟨hAuto, hFile, hCandidates, hRead, hNamed, hPassed⟩

end Sightline.TextFile
