import Sightline.Codec.Label
import Sightline.Proofs.Codec.Canonical
import Sightline.Proofs.TextFile.RoundTrip

/-! A text file that is read and written back. Its line ends become line feeds, a missing
one at the end is supplied, and nothing else is changed, if the codec is one that undoes what
it does; so a file that is written once more stays as it is. -/
namespace Sightline.TextFile

variable {codecs : Registry} {means : Means} {store : Store} {path : String}
  {asked name : Option String} {settings : DetectionSettings} {lines : List Text}

theorem linesIn_of_readFirst {names : List String}
    (h : (readFirst codecs store path names).1 = .ok (lines, name)) :
    linesIn codecs store path name = .ok lines := by
  induction names with
  | nil => cases h
  | cons first names ih =>
      rw [readFirst] at h
      split at h
      next hLines =>
        cases h
        exact hLines
      next hLines =>
        split at h
        · exact ih h
        · cases h

/-- Lines that are read are those of the file in the encoding that is returned, which is the
one asked for unless it is to be detected. -/
theorem linesIn_of_read (h : (read store means path asked settings).1 = .ok (lines, name)) :
    linesIn means.codecs store path name = .ok lines ∧
      (asked ≠ some detection → name = asked) := by
  rw [read] at h
  split at h
  next hAsked =>
    refine ⟨?_, fun hNot => absurd hAsked hNot⟩
    split at h
    · cases h
    · exact linesIn_of_readFirst h
  · rw [readNamed] at h
    split at h
    next hLines =>
      cases h
      exact ⟨hLines, fun _ => rfl⟩
    · cases h

/-- Lines that are written once more find the file as they would leave it. -/
theorem write_put {target : String} {here : Location} {codec : Codec} {octets : Bytes}
    (hOpen : store.openForWriting target = .ok here) (hName : encodingOf codecs name = .ok codec)
    (h : Handed codec lines octets) :
    write codecs (store.put here octets) target lines name =
      write codecs store target lines name := by
  simp only [write, hOpen, Store.openForWriting_put hOpen, hName, content_of_handed h,
    Store.put_put]

/-- A faithful codec has octets for the lines of what it reads. -/
theorem exists_handed_linesOf {codec : Codec} (h : codec.Faithful) {octets : Bytes} {s : Text}
    (hText : codec.decode octets = .ok s) : ∃ written, Handed codec (Text.linesOf s) written := by
  refine h.writes hText _ fun piece hPiece => ?_
  obtain hLine | rfl := mem_pieces (List.mem_reverse.mp hPiece)
  · exact fun c hc => List.mem_cons_of_mem _ ((Text.mem_linesOf hLine).2 hc)
  · exact fun c hc => List.mem_singleton.mp hc ▸ List.mem_cons_self

section Canonical

variable {e : Encoding} {octets written : Bytes} {s : Text}

/-- Where no mark is put in front, what is handed over is the text of the lines in octets. -/
theorem encode_of_handed (he : e.Canonical) (h : Handed e.codec lines octets) :
    e.encode (Text.endLines lines) = .ok octets := by
  have hMark : e.mark = [] := by obtain rfl | rfl | rfl := he <;> rfl
  obtain ⟨body, hBody, rfl⟩ := spells_of_handed h
  rw [hMark, List.nil_append, hBody]
  cases lines with
  | nil => obtain rfl | rfl | rfl := he <;> exact hBody.symm
  | cons line lines => rfl

/-- Octets that are read and written back are the same ones if the text is the same. -/
theorem handed_eq_iff (he : e.Canonical) (hText : e.decode octets = .ok s)
    (h : Handed e.codec lines written) : written = octets ↔ Text.endLines lines = s := by
  constructor
  · rintro rfl
    exact Except.ok.inj ((h.decode e.faithful).symm.trans hText)
  · rintro rfl
    exact Except.ok.inj ((encode_of_handed he h).symm.trans (Encoding.encode_of_decode he hText))

/-- An encoding without a mark leaves the octets of a file as they are if there is no carriage
return among them and they end with a line feed, if at all. -/
theorem handed_eq_self_iff (he : e.Canonical) (hText : e.decode octets = .ok s)
    (h : Handed e.codec (Text.linesOf s) written) :
    written = octets ↔ 0x0D ∉ octets ∧ (octets = [] ∨ octets.getLast? = some 0x0A) := by
  have hOctets := Encoding.encode_of_decode he hText
  have hReturn : 0x0D ∈ octets ↔ '\r' ∈ s :=
    Encoding.mem_octets_iff he hOctets (c := '\r') (by decide)
  have hFeed : octets.getLast? = some 0x0A ↔ s.getLast? = some '\n' :=
    Encoding.getLast?_octets_iff he hOctets (c := '\n') (by decide)
  have hNil : octets = [] ↔ s = [] := by
    constructor
    · rintro rfl
      exact Encoding.eq_nil_of_encode hOctets
    · rintro rfl
      obtain rfl | rfl | rfl := he <;> exact (Except.ok.inj hOctets).symm
  rw [handed_eq_iff he hText h, Text.linesOf, Text.endLines_records,
    Text.ended_normalizeEnds_eq_self_iff, hReturn, hFeed, hNil]

end Canonical

/-- Reading a file and writing it back changes nothing but line ends. The lines are those of
the text with normal ends. Writing them leaves what the codec hands over for them, and the same
once more; if that is read as their text, the lines are read again, so that nothing is changed by
writing these. So it is with every faithful codec, and those of the encodings here are faithful;
the ones without a mark leave the very octets if there is nothing to change. -/
theorem writing_back_normalizes_ends (hAuto : means.codecs detection = .error .unknown)
    (hRead : (read store means path asked settings).1 = .ok (lines, name)) :
    ∃ octets codec s, store.read path = .ok octets ∧ encodingOf means.codecs name = .ok codec ∧
      codec.decode octets = .ok s ∧ (asked ≠ some detection → name = asked) ∧
      (∀ line ∈ lines, line.Unbroken) ∧
      Text.endLines lines = (Text.normalizeEnds s).ended ∧
      (∃ here, store.openForWriting path = .ok here) ∧
      (∀ target here written, store.openForWriting target = .ok here →
        Handed codec lines written → ∃ after events,
          write means.codecs store target lines name = (after, .ok (), events) ∧
          after.read target = .ok written ∧
          write means.codecs after target lines name = (after, .ok (), events) ∧
          (codec.decode written = .ok (Text.endLines lines) →
            ∀ again : Means, again.codecs = means.codecs → ∀ settings,
              (read after again target name settings).1 = .ok (lines, name))) ∧
      (codec.Faithful → ∃ written, Handed codec lines written ∧
        codec.decode written = .ok (Text.endLines lines)) ∧
      ∀ e : Encoding, codec = e.codec → codec.Faithful ∧
        (e.Canonical → ∀ written, Handed codec lines written → (written = octets ↔
          0x0D ∉ octets ∧ (octets = [] ∨ octets.getLast? = some 0x0A))) := by
  obtain ⟨hLines, hAsked⟩ := linesIn_of_read hRead
  obtain ⟨octets, codec, s, hOctets, hName, hText, rfl⟩ := linesIn_eq_ok hLines
  have hUnbroken (line : Text) (hLine : line ∈ Text.linesOf s) : line.Unbroken :=
    (Text.mem_linesOf hLine).1
  refine ⟨octets, codec, s, hOctets, hName, hText, hAsked, hUnbroken, Text.endLines_records _,
    Store.exists_openForWriting hOctets, fun target here written hOpen hHanded => ?_,
    fun hFaithful => ?_, ?_⟩
  · obtain ⟨events, hWrite⟩ := write_of_handed hOpen hName hHanded
    have hFile : (store.put here written).read target = .ok written := Store.read_put hOpen written
    refine ⟨_, events, hWrite, hFile, ?_, fun hSame again hCodecs settings => ?_⟩
    · rw [write_put hOpen hName hHanded, hWrite]
    · rw [← hCodecs] at hAuto hName
      exact read_of_linesIn hAuto (linesIn_of_decode hFile hName hSame hUnbroken) settings
  · obtain ⟨written, hHanded⟩ := exists_handed_linesOf hFaithful hText
    exact ⟨written, hHanded, hHanded.decode hFaithful⟩
  · rintro e rfl
    exact ⟨e.faithful, fun he written => handed_eq_self_iff he hText⟩

/-- The encodings of this library, and a detector that never has a guess. -/
def Means.undecided : Means := ⟨.common, fun _ => ⟨none, none⟩, stringBound⟩

/-- A file in Latin-1 with three ways to end a line, the last of them none. -/
def mixedEnds : Store := ⟨"/", [], [(["a"], [0x61, 0x0D, 0x0A, 0xE9, 0x0D, 0x62])]⟩

/-- The file is no UTF-8, so its encoding is detected as the last candidate; it is another file
once it has been written back, and stays that one. -/
theorem mixedEnds_written_back :
    (read mixedEnds .undecided "a" (some detection) {}).1 =
      .ok ([['a'], ['\xe9'], ['b']], some "latin-1") ∧
    ∃ written after events,
      write .common mixedEnds "a" [['a'], ['\xe9'], ['b']] (some "latin-1") =
        (after, .ok (), events) ∧
      after.read "a" = .ok written ∧
      Encoding.latin1.decode written = .ok ['a', '\n', '\xe9', '\n', 'b', '\n'] ∧
      write .common after "a" [['a'], ['\xe9'], ['b']] (some "latin-1") =
        (after, .ok (), events) ∧
      written ≠ [0x61, 0x0D, 0x0A, 0xE9, 0x0D, 0x62] := by
  have hRead : (read mixedEnds .undecided "a" (some detection) {}).1 =
      .ok ([['a'], ['\xe9'], ['b']], some "latin-1") := by
    decide +kernel
  refine ⟨hRead, ?_⟩
  have hAuto : Means.undecided.codecs detection = .error .unknown := rfl
  obtain ⟨octets, codec, s, hOctets, hName, -, -, -, -, ⟨here, hOpen⟩, hTarget, hFaithful,
    hKnown⟩ := writing_back_normalizes_ends hAuto hRead
  obtain rfl : Encoding.latin1.codec = codec := Except.ok.inj hName
  obtain rfl : [0x61, 0x0D, 0x0A, 0xE9, 0x0D, 0x62] = octets :=
    Except.ok.inj ((show mixedEnds.read "a" = .ok _ by decide +kernel).symm.trans hOctets)
  obtain ⟨hUndone, hSame⟩ := hKnown .latin1 rfl
  obtain ⟨written, hHanded, hText⟩ := hFaithful hUndone
  obtain ⟨after, events, hWrite, hWritten, hAgain, -⟩ := hTarget "a" here written hOpen hHanded
  refine ⟨written, after, events, hWrite, hWritten, hText, hAgain, ?_⟩
  rw [Ne, hSame (by decide) written hHanded]
  decide

/-- The encodings of this library, and the one for labels. -/
def Means.labelling : Means :=
  { Means.undecided with codecs := Registry.common.add "idna" Codec.Label.codec }

/-- A file with one line that holds no dot. -/
def dotless : Store := ⟨"/", [], [(["a"], [0x61, 0x0A])]⟩

/-- The line is read as a label and withheld as one, so the file is empty once it has been written
back. -/
theorem dotless_line_lost :
    (read dotless .labelling "a" (some "idna") {}).1 = .ok ([['a']], some "idna") ∧
    Codec.Label.codec.decode [0x61, 0x0A] = .ok ['a', '\n'] ∧
    (write Means.labelling.codecs dotless "a" [['a']] (some "idna")).2.1 = .ok () ∧
    (write Means.labelling.codecs dotless "a" [['a']] (some "idna")).1.read "a" = .ok [] ∧
    Codec.Label.codec.decode [] ≠ .ok ['a', '\n'] := by
  decide +kernel

end Sightline.TextFile
