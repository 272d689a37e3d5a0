import Sightline.Proofs.Codec.HandOver
import Sightline.Proofs.Store.Put
import Sightline.Proofs.Text.Newline
import Sightline.TextFile.Write

/-! A text file that is written and read again. Lines without line ends come back as
they were if the codec reads what it has handed over as the text they make, and the file is
read in the encoding it was written in. -/
namespace Sightline.TextFile

/-- The octets that a codec hands over for some lines. -/
def Handed (codec : Codec) (lines : List Text) (octets : Bytes) : Prop :=
  codec.Hands (pieces lines).reverse octets

/-- The octets of some lines, each ended by a line feed, with the mark of the encoding in front
if there is a line. -/
def Spells (e : Encoding) (lines : List Text) (octets : Bytes) : Prop :=
  ∃ body, e.encode (Text.endLines lines) = .ok body ∧
    octets = if lines.isEmpty then [] else e.mark ++ body

theorem flatten_pieces (lines : List Text) : (pieces lines).flatten = Text.endLines lines := by
  induction lines with
  | nil => rfl
  | cons line lines ih =>
      simp only [pieces, Text.endLines, List.flatMap_cons, List.flatten_append] at ih ⊢
      rw [ih]
      simp

theorem mem_pieces {lines : List Text} {piece : Text} (h : piece ∈ pieces lines) :
    piece ∈ lines ∨ piece = ['\n'] := by
  obtain ⟨line, hLine, hPiece⟩ := List.mem_flatMap.mp h
  rcases List.mem_cons.mp hPiece with rfl | hEnd
  · exact .inl hLine
  · exact .inr (List.mem_singleton.mp hEnd)

section HandOver

variable {codec : Codec} {written done lines : List Text} {octets : Bytes}

/-- Pieces that can be handed over are, and writing goes on behind them. -/
theorem encodePieces_append (h : codec.Hands (done.reverse ++ written) octets) :
    ∃ before handed, codec.Hands written before ∧ octets = before ++ handed ∧
      ∀ rest, encodePieces codec written (done ++ rest) =
        (handed ++ (encodePieces codec (done.reverse ++ written) rest).1,
          (encodePieces codec (done.reverse ++ written) rest).2) := by
  induction done generalizing written with
  | nil => exact ⟨octets, [], h, (List.append_nil octets).symm, fun rest => rfl⟩
  | cons piece done ih =>
      simp only [List.reverse_cons, List.append_assoc, List.singleton_append] at h ⊢
      obtain ⟨_, handed, _ | ⟨hWritten, hPiece⟩, rfl, hRest⟩ := ih h
      refine ⟨_, _, hWritten, List.append_assoc _ _ _, fun rest => ?_⟩
      simp only [List.cons_append, encodePieces, hPiece, hRest rest, List.append_assoc]

theorem content_append (h : codec.Hands done.reverse octets) (rest : List Text) :
    encodePieces codec [] (done ++ rest) =
      (octets ++ (encodePieces codec done.reverse rest).1,
        (encodePieces codec done.reverse rest).2) := by
  rw [← List.append_nil done.reverse] at h
  obtain ⟨_, handed, _ | _, rfl, hRest⟩ := encodePieces_append h
  simpa using hRest rest

theorem content_of_handed (h : Handed codec lines octets) :
    content codec lines = (octets, none) := by
  simpa [content, encodePieces] using content_append h []

/-- Writing goes on behind pieces that are handed over to the end, or up to a piece that cannot
be encoded. -/
theorem hands_or_fails {before : Bytes} (h : codec.Hands written before) (rest : List Text) :
    (∃ octets, codec.Hands (rest.reverse ++ written) octets) ∨
    ∃ done piece behind octets fault, rest = done ++ piece :: behind ∧
      codec.Hands (done.reverse ++ written) octets ∧
      codec.encode (done.reverse ++ written) piece = .error fault := by
  induction rest generalizing written before with
  | nil => exact .inl ⟨before, h⟩
  | cons piece rest ih =>
      cases hPiece : codec.encode written piece with
      | error fault => exact .inr ⟨[], piece, rest, before, fault, rfl, h, hPiece⟩
      | ok more =>
          simp only [List.reverse_cons, List.append_assoc, List.singleton_append]
          rcases ih (.cons h hPiece) with hHands |
            ⟨done, other, behind, octets, fault, rfl, hHands, hOther⟩
          · exact .inl hHands
          · refine .inr ⟨piece :: done, other, behind, octets, fault, rfl, ?_, ?_⟩
            · simpa using hHands
            · simpa using hOther

/-- What has been handed over before a piece that cannot be encoded is all there is. -/
theorem content_of_fails {piece : Text} {behind : List Text} {fault : Codec.EncodeFault}
    (hPieces : pieces lines = done ++ piece :: behind) (h : codec.Hands done.reverse octets)
    (hFault : codec.encode done.reverse piece = .error fault) :
    content codec lines = (octets, some fault) := by
  simp only [content, hPieces, content_append h, encodePieces, hFault, List.append_nil]

theorem handed_of_content (h : content codec lines = (octets, none)) :
    Handed codec lines octets := by
  rcases hands_or_fails .nil (pieces lines) with ⟨others, hHanded⟩ |
    ⟨done, piece, behind, others, fault, hPieces, hDone, hFault⟩
  · rw [List.append_nil] at hHanded
    cases h.symm.trans (content_of_handed hHanded)
    exact hHanded
  · rw [List.append_nil] at hDone hFault
    cases h.symm.trans (content_of_fails hPieces hDone hFault)

/-- What a faithful codec has handed over for some lines is read as the text they make. -/
theorem Handed.decode (h : Handed codec lines octets) (hFaithful : codec.Faithful) :
    codec.decode octets = .ok (Text.endLines lines) := by
  rw [hFaithful.reads h, List.reverse_reverse, flatten_pieces]

/-- Lines that are handed over in an encoding are spelled in it. -/
theorem spells_of_handed {e : Encoding} (h : Handed e.codec lines octets) :
    Spells e lines octets := by
  obtain ⟨body, hBody, rfl⟩ := Encoding.encode_of_hands h
  rw [List.reverse_reverse, flatten_pieces] at hBody
  refine ⟨body, hBody, ?_⟩
  cases lines <;> simp [pieces]

/-- An encoding has octets for some lines if it has for each. -/
theorem exists_handed {e : Encoding} (h : ∀ line ∈ lines, e.Encodes line) :
    ∃ octets, Handed e.codec lines octets := by
  refine Encoding.exists_hands fun piece hPiece => ?_
  obtain hLine | rfl := mem_pieces (List.mem_reverse.mp hPiece)
  · exact h piece hLine
  · exact e.encodes_ending

end HandOver

variable {codecs : Registry} {means : Means} {store : Store} {path : String} {lines : List Text}
  {name : Option String} {codec : Codec} {octets : Bytes}

theorem write_of_handed {here : Location} (hOpen : store.openForWriting path = .ok here)
    (hName : encodingOf codecs name = .ok codec) (h : Handed codec lines octets) :
    ∃ events, write codecs store path lines name = (store.put here octets, .ok (), events) := by
  simp only [write, hOpen, hName, content_of_handed h]
  exact ⟨_, rfl⟩

/-- A write succeeds only if there is a codec that hands over all lines. -/
theorem exists_of_write {after : Store} {events : List Event}
    (h : write codecs store path lines name = (after, .ok (), events)) :
    ∃ here codec octets, store.openForWriting path = .ok here ∧
      encodingOf codecs name = .ok codec ∧ Handed codec lines octets ∧
      after = store.put here octets := by
  unfold write at h
  split at h
  · cases h
  · cases h
  · cases h
  next codec here hName hOpen =>
    split at h
    · cases h
    next octets hContent =>
      cases h
      exact ⟨here, codec, octets, hOpen, hName, handed_of_content hContent, rfl⟩

theorem linesIn_of_decode (hFile : store.read path = .ok octets)
    (hName : encodingOf codecs name = .ok codec)
    (hText : codec.decode octets = .ok (Text.endLines lines))
    (hLines : ∀ line ∈ lines, line.Unbroken) : linesIn codecs store path name = .ok lines := by
  simp only [linesIn, hFile, hName, hText, Text.linesOf_endLines hLines]

/-- A successful write leaves a file behind that has the lines. -/
theorem linesIn_of_write {after : Store} {events : List Event}
    (h : write codecs store path lines name = (after, .ok (), events))
    (hFaithful : ∀ codec, encodingOf codecs name = .ok codec → codec.Faithful)
    (hLines : ∀ line ∈ lines, line.Unbroken) : linesIn codecs after path name = .ok lines := by
  obtain ⟨here, codec, octets, hOpen, hName, hHanded, rfl⟩ := exists_of_write h
  exact linesIn_of_decode (Store.read_put hOpen octets) hName
    (hHanded.decode (hFaithful codec hName)) hLines

theorem linesIn_eq_ok (h : linesIn codecs store path name = .ok lines) :
    ∃ octets codec s, store.read path = .ok octets ∧ encodingOf codecs name = .ok codec ∧
      codec.decode octets = .ok s ∧ lines = Text.linesOf s := by
  unfold linesIn at h
  split at h
  · cases h
  · cases h
  · cases h
  next codec octets hName hOctets =>
    split at h
    · cases h
    next s hText =>
      cases h
      exact ⟨octets, codec, s, hOctets, hName, hText, rfl⟩

/-- What has lines in an encoding is read by its name, unless that is the one of detection. -/
theorem read_of_linesIn (hAuto : means.codecs detection = .error .unknown)
    (h : linesIn means.codecs store path name = .ok lines) (settings : DetectionSettings) :
    (read store means path name settings).1 = .ok (lines, name) := by
  have hNamed : name ≠ some detection := by
    rintro rfl
    obtain ⟨_, _, _, -, hName, -⟩ := linesIn_eq_ok h
    rw [encodingOf, hAuto] at hName
    split at hName <;> cases hName
  rw [read, if_neg hNamed, readNamed, h]

end Sightline.TextFile
