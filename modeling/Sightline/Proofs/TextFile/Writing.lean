import Sightline.Proofs.TextFile.Normalization

/-! What writing lines leaves in a store. The file is emptied when it is opened, and takes
what the codec hands over for the lines one by one: for all of them, or up to the first piece
that cannot be encoded. Nothing else in the store is touched. -/
namespace Sightline

/-- A store that differs from another one in the file at a place at most. -/
structure Store.AgreesOff (after store : Store) (here : Location) : Prop where
  top : after.top = store.top
  directories : after.directories = store.directories
  content : ∀ there, there ≠ here → after.content? there = store.content? there

theorem Store.put_agreesOff (store : Store) (here : Location) (content : Bytes) :
    (store.put here content).AgreesOff store here := by
  refine ⟨Store.top_put store here content, Store.directories_put store here content, ?_⟩
  intro there hThere
  rw [Store.content?_put, if_neg hThere]

namespace TextFile

/-- Writing some lines fails at an index: the line there cannot be encoded, or the line feed
behind it. The octets are those that have been handed over before. -/
inductive StopsAt (codec : Codec) (lines : List Text) (index : Nat) (octets : Bytes)
    (fault : Codec.EncodeFault) : Prop where
  | line {line : Text} (hLine : lines[index]? = some line)
      (hBefore : Handed codec (lines.take index) octets)
      (hFault : codec.encode (pieces (lines.take index)).reverse line = .error fault)
  | ending {line : Text} (hLine : lines[index]? = some line)
      (hBefore : codec.Hands (line :: (pieces (lines.take index)).reverse) octets)
      (hFault : codec.encode (line :: (pieces (lines.take index)).reverse) ['\n'] = .error fault)

/-- The line at an index is the first one that an encoding has no octets for. -/
structure FailsAt (e : Encoding) (lines : List Text) (index : Nat) (fault : Codec.EncodeFault) :
    Prop where
  line : ∃ line, lines[index]? = some line ∧ e.encode line = .error fault
  before : ∀ line ∈ lines.take index, e.Encodes line

variable {codec : Codec} {e : Encoding} {lines : List Text} {octets : Bytes} {index : Nat}
  {fault : Codec.EncodeFault}

theorem pieces_split {line : Text} (h : lines[index]? = some line) :
    pieces lines =
      pieces (lines.take index) ++ line :: ['\n'] :: pieces (lines.drop (index + 1)) := by
  obtain ⟨hIndex, rfl⟩ := List.getElem?_eq_some_iff.mp h
  conv_lhs => rw [← List.take_append_drop index lines, List.drop_eq_getElem_cons hIndex]
  simp only [pieces, List.flatMap_append, List.flatMap_cons]
  rfl

/-- A piece is one of the lines, or the line feed behind it. -/
theorem exists_line_of_pieces {done behind : List Text} {piece : Text}
    (h : pieces lines = done ++ piece :: behind) :
    ∃ index line, lines[index]? = some line ∧
      (done = pieces (lines.take index) ∧ piece = line ∨
        done = pieces (lines.take index) ++ [line] ∧ piece = ['\n']) := by
  induction lines generalizing done with
  | nil => simp [pieces] at h
  | cons line lines ih =>
      change line :: ['\n'] :: pieces lines = _ at h
      rcases done with _ | ⟨first, _ | ⟨second, done⟩⟩
      · obtain ⟨rfl, -⟩ := List.cons.inj h
        exact ⟨0, line, rfl, .inl ⟨rfl, rfl⟩⟩
      · obtain ⟨rfl, hRest⟩ := List.cons.inj h
        obtain ⟨rfl, -⟩ := List.cons.inj hRest
        exact ⟨0, line, rfl, .inr ⟨rfl, rfl⟩⟩
      · obtain ⟨rfl, hRest⟩ := List.cons.inj h
        obtain ⟨rfl, hLines⟩ := List.cons.inj hRest
        obtain ⟨index, other, hOther, hDone⟩ := ih hLines
        refine ⟨index + 1, other, hOther, ?_⟩
        rw [List.take_succ_cons]
        rcases hDone with ⟨rfl, hPiece⟩ | ⟨rfl, hPiece⟩
        · exact .inl ⟨rfl, hPiece⟩
        · exact .inr ⟨rfl, hPiece⟩

theorem handed_or_stopsAt (codec : Codec) (lines : List Text) :
    (∃ octets, Handed codec lines octets) ∨
      ∃ index octets fault, StopsAt codec lines index octets fault := by
  rcases hands_or_fails .nil (pieces lines) with ⟨octets, hHands⟩ |
    ⟨done, piece, behind, octets, fault, hPieces, hHands, hFault⟩
  · rw [List.append_nil] at hHands
    exact .inl ⟨octets, hHands⟩
  · rw [List.append_nil] at hHands hFault
    obtain ⟨index, line, hLine, ⟨rfl, rfl⟩ | ⟨rfl, rfl⟩⟩ := exists_line_of_pieces hPieces
    · exact .inr ⟨index, octets, fault, .line hLine hHands hFault⟩
    · rw [List.reverse_append] at hHands hFault
      exact .inr ⟨index, octets, fault, .ending hLine hHands hFault⟩

theorem content_of_stopsAt (h : StopsAt codec lines index octets fault) :
    content codec lines = (octets, some fault) := by
  rcases h with ⟨hLine, hBefore, hFault⟩ | ⟨hLine, hBefore, hFault⟩
  · exact content_of_fails (pieces_split hLine) hBefore hFault
  · rw [← List.singleton_append, ← List.reverse_singleton, ← List.reverse_append] at hBefore hFault
    have hPieces := pieces_split hLine
    rw [← List.singleton_append, ← List.append_assoc] at hPieces
    exact content_of_fails hPieces hBefore hFault

section Encoding

theorem encodes_of_handed (h : Handed e.codec lines octets) : ∀ line ∈ lines, e.Encodes line := by
  intro line hLine
  refine Encoding.encodes_of_hands h line (List.mem_reverse.mpr ?_)
  exact List.mem_flatMap.mpr ⟨line, hLine, List.mem_cons_self⟩

theorem exists_handed_iff : (∃ octets, Handed e.codec lines octets) ↔
    ∀ line ∈ lines, e.Encodes line :=
  ⟨fun ⟨_, h⟩ => encodes_of_handed h, exists_handed⟩

/-- At the first line that an encoding has no octets for, writing the lines fails. -/
theorem FailsAt.stopsAt (h : FailsAt e lines index fault) :
    ∃ octets, StopsAt e.codec lines index octets fault := by
  obtain ⟨⟨line, hLine, hFault⟩, hBefore⟩ := h
  obtain ⟨octets, hHanded⟩ := exists_handed hBefore
  refine ⟨octets, .line hLine hHanded ?_⟩
  change (e.encode line).map _ = _
  rw [hFault]
  rfl

/-- What an encoding stops at is the first line that it has no octets for. -/
theorem StopsAt.failsAt (h : StopsAt e.codec lines index octets fault) :
    FailsAt e lines index fault ∧ Spells e (lines.take index) octets := by
  have hPiece {written : List Text} {piece : Text}
      (hFault : e.codec.encode written piece = .error fault) : e.encode piece = .error fault := by
    change (e.encode piece).map _ = _ at hFault
    cases hPiece : e.encode piece with
    | error reason =>
        rw [hPiece] at hFault
        exact hFault
    | ok octets =>
        rw [hPiece] at hFault
        cases hFault
  rcases h with ⟨hLine, hBefore, hFault⟩ | ⟨hLine, hBefore, hFault⟩
  · exact ⟨⟨⟨_, hLine, hPiece hFault⟩, encodes_of_handed hBefore⟩, spells_of_handed hBefore⟩
  · obtain ⟨ending, hEnding⟩ := e.encodes_ending
    cases hEnding.symm.trans (hPiece hFault)

end Encoding

section Write

variable {codecs : Registry} {store : Store} {path : String} {name : Option String}
  {here : Location}

/-- The path is told of before the encoding, unless the name is none that an encoding can have. -/
theorem write_of_pathFault {fault : PathFault} (h : store.openForWriting path = .error fault)
    (hName : ∀ setting, encodingOf codecs name ≠ .error (.setting setting)) (lines : List Text) :
    ∃ events, write codecs store path lines name = (store, .error (.path fault), events) := by
  cases hCodec : encodingOf codecs name with
  | ok codec =>
      simp only [write, hCodec, h]
      exact ⟨_, rfl⟩
  | error reason =>
      cases reason with
      | setting fault => exact absurd hCodec (hName fault)
      | _ =>
          simp only [write, hCodec, h]
          exact ⟨_, rfl⟩

/-- The file is emptied before the encoding is looked for. -/
theorem write_of_noEncoding {fault : FileFault} (hOpen : store.openForWriting path = .ok here)
    (hName : encodingOf codecs name = .error fault) (hFault : ∀ setting, fault ≠ .setting setting)
    (lines : List Text) :
    write codecs store path lines name = (store.put here [], .error fault, []) := by
  cases fault with
  | setting fault => exact absurd rfl (hFault fault)
  | _ => simp only [write, hOpen, hName]

theorem write_of_stopsAt (hOpen : store.openForWriting path = .ok here)
    (hName : encodingOf codecs name = .ok codec) (h : StopsAt codec lines index octets fault) :
    write codecs store path lines name = (store.put here octets, .error (.encode fault), []) := by
  simp only [write, hOpen, hName, content_of_stopsAt h]

end Write

end TextFile

end Sightline
