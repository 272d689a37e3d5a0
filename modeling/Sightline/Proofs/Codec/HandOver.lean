import Mathlib.Data.List.Flatten
import Sightline.Codec.Registry
import Sightline.Proofs.Codec.Canonical

/-! What codecs hand over. Pieces of a text are handed over one after the other, and what is
there in the end depends on all of them. A faithful codec reads them again as the text they make,
and has octets for all that it reads; the encodings of this library are faithful, since they give
the octets of the whole text behind one mark, however it is cut into pieces. -/
namespace Sightline

namespace Codec

/-- The octets that a codec hands over for pieces that are written one after the other, the last
of them first. -/
inductive Hands (codec : Codec) : List Text → Bytes → Prop where
  | nil : Hands codec [] []
  | cons {written : List Text} {octets more : Bytes} {piece : Text}
      (hWritten : Hands codec written octets) (hPiece : codec.encode written piece = .ok more) :
      Hands codec (piece :: written) (octets ++ more)

/-- A codec that undoes what it does. -/
structure Faithful (codec : Codec) : Prop where
  /-- What can be read can be written, line by line. -/
  writes : ∀ {octets s}, codec.decode octets = .ok s → ∀ written : List Text,
    (∀ piece ∈ written, piece ⊆ '\n' :: s) → ∃ handed, codec.Hands written handed
  /-- What has been handed over is read as the text of the pieces. -/
  reads : ∀ {written octets}, codec.Hands written octets →
    codec.decode octets = .ok written.reverse.flatten

end Codec

namespace Encoding

/-- An encoding has octets for a text. -/
def Encodes (e : Encoding) (s : Text) : Prop := ∃ octets, e.encode s = .ok octets

variable {e : Encoding} {s t : Text} {octets : Bytes}

theorem encodes_nil (e : Encoding) : e.Encodes [] := by
  cases e <;> exact ⟨_, rfl⟩

theorem encodes_ending (e : Encoding) : e.Encodes ['\n'] := by
  cases e <;> exact ⟨_, rfl⟩

theorem Encodes.mono (h : e.Encodes s) (hSub : t ⊆ s) : e.Encodes t := by
  obtain ⟨octets, hOctets⟩ := h
  cases e with
  | utf8 | markedUtf8 | utf16 => exact ⟨_, rfl⟩
  | latin1 | ascii =>
      have hAll := ((Codec.OneOctet.encodeFrom_eq_ok_iff _ _ _ _ _).mp hOctets).1
      exact ⟨_, (Codec.OneOctet.encodeFrom_eq_ok_iff _ _ _ _ _).mpr
        ⟨fun c hc => hAll c (hSub hc), rfl⟩⟩

theorem Encodes.append (hs : e.Encodes s) (ht : e.Encodes t) : e.Encodes (s ++ t) := by
  obtain ⟨first, hFirst⟩ := hs
  obtain ⟨second, hSecond⟩ := ht
  exact ⟨_, encode_append hFirst hSecond⟩

/-- What can be read in an encoding can be written in it. -/
theorem encodes_of_decode (h : e.decode octets = .ok s) : e.Encodes s := by
  cases e with
  | utf8 | markedUtf8 | utf16 => exact ⟨_, rfl⟩
  | latin1 => exact ⟨octets, encode_of_decode (.inr (.inl rfl)) h⟩
  | ascii => exact ⟨octets, encode_of_decode (.inr (.inr rfl)) h⟩

theorem codec_encode_eq_ok_iff {written : List Text} {piece : Text} :
    e.codec.encode written piece = .ok octets ↔ ∃ body, e.encode piece = .ok body ∧
      octets = if written.isEmpty then e.mark ++ body else body := by
  change (e.encode piece).map _ = _ ↔ _
  cases e.encode piece with
  | error fault => exact ⟨nofun, fun ⟨_, hBody, _⟩ => nomatch hBody⟩
  | ok body =>
      constructor
      · intro h
        exact ⟨body, rfl, (Except.ok.inj h).symm⟩
      · rintro ⟨_, hBody, rfl⟩
        cases hBody
        rfl

/-- The pieces of a text are handed over as the whole of it, behind the mark if there is a
piece. -/
theorem encode_of_hands {written : List Text} (h : e.codec.Hands written octets) :
    ∃ body, e.encode written.reverse.flatten = .ok body ∧
      octets = if written.isEmpty then [] else e.mark ++ body := by
  induction h with
  | nil => exact (encodes_nil e).imp fun body hBody => ⟨hBody, rfl⟩
  | @cons written octets more piece _ hPiece ih =>
      obtain ⟨front, hFront, rfl⟩ := ih
      obtain ⟨body, hBody, rfl⟩ := codec_encode_eq_ok_iff.mp hPiece
      refine ⟨front ++ body, ?_, ?_⟩
      · rw [List.reverse_cons, List.flatten_append, List.flatten_singleton]
        exact encode_append hFront hBody
      · cases written with
        | nil =>
            obtain rfl : front = [] := by
              cases e <;> exact (Except.ok.inj hFront).symm
            simp
        | cons last before => simp [List.append_assoc]

/-- Pieces are handed over if an encoding has octets for all of them. -/
theorem exists_hands {written : List Text} (h : ∀ piece ∈ written, e.Encodes piece) :
    ∃ octets, e.codec.Hands written octets := by
  induction written with
  | nil => exact ⟨[], .nil⟩
  | cons piece written ih =>
      obtain ⟨⟨body, hBody⟩, hWritten⟩ := List.forall_mem_cons.mp h
      obtain ⟨octets, hOctets⟩ := ih hWritten
      exact ⟨_, .cons hOctets (codec_encode_eq_ok_iff.mpr ⟨body, hBody, rfl⟩)⟩

theorem encodes_of_hands {written : List Text} (h : e.codec.Hands written octets) :
    ∀ piece ∈ written, e.Encodes piece := by
  induction h with
  | nil => exact nofun
  | cons _ hPiece ih =>
      obtain ⟨body, hBody, -⟩ := codec_encode_eq_ok_iff.mp hPiece
      exact List.forall_mem_cons.mpr ⟨⟨body, hBody⟩, ih⟩

theorem decode_of_hands {written : List Text} (h : e.codec.Hands written octets) :
    e.decode octets = .ok written.reverse.flatten := by
  obtain ⟨body, hBody, rfl⟩ := encode_of_hands h
  cases written with
  | nil => cases e <;> rfl
  | cons piece written => exact decode_mark_append hBody

theorem faithful (e : Encoding) : e.codec.Faithful where
  writes hText _ hWritten := exists_hands fun piece hPiece =>
    ((encodes_ending e).append (encodes_of_decode hText)).mono (hWritten piece hPiece)
  reads := decode_of_hands

end Encoding

end Sightline
