import Sightline.Proofs.Codec.Canonical
import Sightline.Setting.Load

/-! Loading the settings. There are settings if there is no document, if there is one that
breaks a rule, and if there is one that can be read. They end without any for a path that is too
long to be looked up, for octets that are no text, and for a document that stops its reader. -/
namespace Sightline

theorem Encoding.decodeWhole_eq_ok_iff {octets : Bytes} {s : Text} :
    decodeWhole octets = .ok s ↔ octets = Codec.Utf8.encode s := by
  constructor
  · intro h
    unfold decodeWhole at h
    split at h
    next hDecoded =>
      cases h
      have hOctets := Codec.Utf8.encode_of_decodeFrom (by simp) hDecoded
      rwa [List.append_nil] at hOctets
    · cases h
    · cases h
  · rintro rfl
    rw [decodeWhole, Codec.Utf8.decode, Codec.Utf8.decodeFrom_encode]

namespace Setting

/-- A reader that takes octets for no other text than theirs in UTF-8. -/
def Reader.Strict (reader : Reader) : Prop :=
  ∀ octets, (∀ s, octets ≠ Codec.Utf8.encode s) → ∃ fault, reader octets = .error (.decode fault)

/-- The settings that there are with what stands at a path. -/
inductive Loads (reader : Reader) (store : Store) (path : String) : Table → Prop where
  | missing {fault : PathFault} (hFile : store.read path = .error fault)
      (hShort : ∀ p, fault ≠ .longName p) : Loads reader store path defaults
  | spoilt {octets : Bytes} {message : String} (hFile : store.read path = .ok octets)
      (hRead : reader octets = .error (.problem message)) : Loads reader store path defaults
  | overlaid {octets : Bytes} {t : Table} (hFile : store.read path = .ok octets)
      (hRead : reader octets = .ok t) : Loads reader store path (Table.merge defaults t)

/-- There are no settings with what stands at a path. -/
inductive Stops (reader : Reader) (store : Store) (path : String) : LoadFault → Prop where
  | longName {p : String} (hFile : store.read path = .error (.longName p)) :
      Stops reader store path (.lookup (.longName p))
  | noText {octets : Bytes} {fault : Codec.DecodeFault} (hFile : store.read path = .ok octets)
      (hRead : reader octets = .error (.decode fault)) :
      Stops reader store path (.reader (.decode fault))
  | breach {octets : Bytes} {kind message : String} (hFile : store.read path = .ok octets)
      (hRead : reader octets = .error (.breach kind message)) :
      Stops reader store path (.reader (.breach kind message))

variable {reader : Reader} {store : Store} {path : String}

/-- Whatever stands at a path, there are settings or there are none. -/
theorem loads_or_stops (reader : Reader) (store : Store) (path : String) :
    (∃ t, Loads reader store path t) ∨ ∃ fault, Stops reader store path fault := by
  cases hFile : store.read path with
  | error fault =>
      cases fault with
      | longName p => exact .inr ⟨_, .longName hFile⟩
      | _ => exact .inl ⟨_, .missing hFile nofun⟩
  | ok octets =>
      cases hRead : reader octets with
      | ok t => exact .inl ⟨_, .overlaid hFile hRead⟩
      | error fault =>
          cases fault with
          | decode fault => exact .inr ⟨_, .noText hFile hRead⟩
          | problem message => exact .inl ⟨_, .spoilt hFile hRead⟩
          | breach kind message => exact .inr ⟨_, .breach hFile hRead⟩

/-- Whether there is a file shows in reading it. -/
theorem isFile_eq (store : Store) (path : String) : store.isFile path =
    match store.read path with
    | .ok _ => .ok true
    | .error (.longName p) => .error (.longName p)
    | .error _ => .ok false := by
  rw [Store.isFile, Store.read]
  cases store.openFile path with
  | ok found => rfl
  | error fault => cases fault <;> rfl

theorem readDocument_of_read {octets : Bytes} (hFile : store.read path = .ok octets) :
    readDocument reader store path = (reader octets).mapError .reader := by
  simp only [readDocument, hFile]

/-- What is found in looking a file up, and in reading a document in it, decides on the settings. -/
theorem load_eq (reader : Reader) (store : Store) (path : Option String) :
    (load reader store path).1 =
      match store.isFile (Path.shorten (path.getD userPath)) with
      | .error fault => .error (.lookup fault)
      | .ok false => .ok defaults
      | .ok true =>
        match readDocument reader store (Path.shorten (path.getD userPath)) with
        | .ok t => .ok (Table.merge defaults t)
        | .error fault => if fault.isReported then .ok defaults else .error fault := by
  -- unfolded as it stands, since its equation lemma takes long to make
  delta load
  dsimp only
  cases store.isFile (Path.shorten (path.getD userPath)) with
  | error fault => rfl
  | ok found =>
      cases found with
      | false => rfl
      | true =>
          cases readDocument reader store (Path.shorten (path.getD userPath)) with
          | ok t => rfl
          | error fault =>
              dsimp only
              split_ifs <;> rfl

theorem Loads.load {path : Option String} {t : Table}
    (h : Loads reader store (Path.shorten (path.getD userPath)) t) :
    (load reader store path).1 = .ok t := by
  rw [load_eq, isFile_eq]
  cases h with
  | @missing fault hFile hShort =>
      rw [hFile]
      cases fault with
      | longName p => exact absurd rfl (hShort p)
      | _ => rfl
  | spoilt hFile hRead =>
      rw [hFile, readDocument_of_read hFile, hRead]
      rfl
  | overlaid hFile hRead =>
      rw [hFile, readDocument_of_read hFile, hRead]
      rfl

theorem Stops.load {path : Option String} {fault : LoadFault}
    (h : Stops reader store (Path.shorten (path.getD userPath)) fault) :
    (load reader store path).1 = .error fault := by
  rw [load_eq, isFile_eq]
  cases h with
  | longName hFile =>
      rw [hFile]
  | noText hFile hRead | breach hFile hRead =>
      rw [hFile, readDocument_of_read hFile, hRead]
      rfl

/-- The settings are the embedded ones if there is no file or the reader tells of a rule that the
document in it breaks, and the embedded ones with the document over them if it can be read. Loading
fails exactly for a path that is too long, for octets that the reader finds no text in, and for a
document that the reader comes to grief over. A strict reader finds none in octets that are no
UTF-8. -/
theorem load_ends_iff (reader : Reader) (store : Store) (path : Option String) :
    (∀ t, (load reader store path).1 = .ok t ↔
      Loads reader store (Path.shorten (path.getD userPath)) t) ∧
    (∀ fault, (load reader store path).1 = .error fault ↔
      Stops reader store (Path.shorten (path.getD userPath)) fault) ∧
    (reader.Strict → ∀ octets, store.read (Path.shorten (path.getD userPath)) = .ok octets →
      (∀ s, octets ≠ Codec.Utf8.encode s) →
      ∃ fault, (load reader store path).1 = .error (.reader (.decode fault))) := by
  have hCases := loads_or_stops reader store (Path.shorten (path.getD userPath))
  refine ⟨fun t => ⟨fun hLoaded => ?_, Loads.load⟩, fun fault => ⟨fun hFault => ?_, Stops.load⟩,
    fun hStrict octets hFile hNot => ?_⟩
  · obtain ⟨t', hLoads⟩ | ⟨fault, hStops⟩ := hCases
    · cases hLoaded.symm.trans hLoads.load
      exact hLoads
    · cases hLoaded.symm.trans hStops.load
  · obtain ⟨t, hLoads⟩ | ⟨fault', hStops⟩ := hCases
    · cases hFault.symm.trans hLoads.load
    · cases hFault.symm.trans hStops.load
      exact hStops
  · obtain ⟨fault, hRead⟩ := hStrict octets hNot
    exact ⟨fault, Stops.load (.noText hFile hRead)⟩

theorem Document.reader_strict : Reader.Strict Document.reader := by
  intro octets hNot
  cases hText : Encoding.decodeWhole octets with
  | ok s => exact absurd (Encoding.decodeWhole_eq_ok_iff.mp hText) (hNot s)
  | error fault => exact ⟨fault, by simp only [Document.reader, hText]⟩

theorem octet_ne_encode (s : Text) : [0xFF] ≠ Codec.Utf8.encode s := fun hText => by
  cases Encoding.decodeWhole_eq_ok_iff.mpr hText

/-- A working directory with two spoilt documents: one octet that is no text, and a name without a
value. -/
def spoilt : Store := ⟨"/", [], [(["c"], [0xFF]), (["d"], [0x61])]⟩

/-- Only one of the two is left aside. -/
theorem spoilt_documents_loaded :
    (∃ fault, (load Document.reader spoilt (some "c")).1 = .error (.reader (.decode fault))) ∧
    (load Document.reader spoilt (some "d")).1 = .ok defaults := by
  refine ⟨(load_ends_iff Document.reader spoilt (some "c")).2.2 Document.reader_strict [0xFF]
    (by decide +kernel) octet_ne_encode, ?_⟩
  obtain ⟨hLoaded, -⟩ := load_ends_iff Document.reader spoilt (some "d")
  obtain ⟨message, hRead⟩ : ∃ message, Document.reader [0x61] = .error (.problem message) :=
    ⟨_, rfl⟩
  exact (hLoaded _).mpr (.spoilt (by decide +kernel) hRead)

/-- The octet that is no text stops the loading with every strict reader. -/
theorem octet_without_text_stops_loading :
    spoilt.read "c" = .ok [0xFF] ∧ (∀ s, [0xFF] ≠ Codec.Utf8.encode s) ∧
      Document.reader.Strict ∧ ∀ reader : Reader, reader.Strict →
        ∃ fault, (load reader spoilt (some "c")).1 = .error (.reader (.decode fault)) := by
  have hFile : spoilt.read "c" = .ok [0xFF] := by decide +kernel
  have hPath : Path.shorten ((some "c").getD userPath) = "c" := by decide +kernel
  refine ⟨hFile, octet_ne_encode, Document.reader_strict, fun reader hStrict => ?_⟩
  obtain ⟨fault, hRead⟩ := hStrict [0xFF] octet_ne_encode
  exact ⟨fault, Stops.load (.noText (hPath.symm ▸ hFile) hRead)⟩

end Setting

end Sightline
