import Toolpath.Files.Program
import Toolpath.Proofs.Files.ReadBack
import Toolpath.Proofs.Text.BrokenBytes

/-!
What is told about the bytes of a program. A text is read as it is, with or without a mark at its start, and
bytes that are no text are replaced piece by piece. Without a mark the replacement is flagged; a mark
alone makes bytes pass for UTF-8, whatever follows it.
-/

namespace Toolpath.Files

open Text.Utf8

variable {b : Bytes} {t : Text} {d : Directory} {p : Path}

def body (b : Bytes) : Bytes := if byteOrderMark <+: b then b.drop byteOrderMark.length else b

/-- Nothing is lost, or it is told: only texts are taken for UTF-8, and all others are unknown. -/
structure LosslessOrFlagged (b : Bytes) : Prop where
  lossless : ∀ t, body b = encode t →
    programText b = t ∧ Encoding.detect b = if byteOrderMark <+: b then .utf8Mark else .utf8
  flagged : (∀ t, body b ≠ encode t) → Encoding.detect b = .unknown ∧ Decodes (body b) (programText b)

lemma detect_of_mark (h : byteOrderMark <+: b) : Encoding.detect b = .utf8Mark :=
  if_pos (List.isPrefixOf_iff_prefix.mpr h)

lemma detect_of_text (h : ¬ byteOrderMark <+: b) (hb : b = encode t) : Encoding.detect b = .utf8 := by
  rw [Encoding.detect, if_neg (mt List.isPrefixOf_iff_prefix.mp h), if_pos]
  rw [decode?_eq_some_iff.mpr hb]
  rfl

lemma detect_of_no_text (h : ¬ byteOrderMark <+: b) (hb : ∀ t, b ≠ encode t) : Encoding.detect b = .unknown := by
  rw [Encoding.detect, if_neg (mt List.isPrefixOf_iff_prefix.mp h), if_neg]
  intro hsome
  obtain ⟨t, ht⟩ := Option.isSome_iff_exists.mp hsome
  exact hb t (decode?_eq_some_iff.mp ht)

lemma detect_eq_unknown_iff : Encoding.detect b = .unknown ↔ ¬ byteOrderMark <+: b ∧ ∀ t, body b ≠ encode t := by
  by_cases h : byteOrderMark <+: b
  · rw [detect_of_mark h]
    exact iff_of_false nofun fun hb => hb.1 h
  · rw [body, if_neg h]
    by_cases hb : ∃ t, b = encode t
    · obtain ⟨t, ht⟩ := hb
      rw [detect_of_text h ht]
      exact iff_of_false nofun fun hb => hb.2 t ht
    · exact iff_of_true (detect_of_no_text h (not_exists.mp hb)) ⟨h, not_exists.mp hb⟩

lemma programText_eq (b : Bytes) : programText b = decodeLossy (body b) := by
  by_cases h : byteOrderMark <+: b
  · rw [programText, detect_of_mark h, body, if_pos h]
  · rw [programText, body, if_neg h]
    split
    · rename_i hd
      rw [Encoding.detect, if_neg (mt List.isPrefixOf_iff_prefix.mp h)] at hd
      split at hd <;> cases hd
    · rfl

lemma reads_text (ht : body b = encode t) :
    programText b = t ∧ Encoding.detect b = if byteOrderMark <+: b then .utf8Mark else .utf8 := by
  refine ⟨by rw [programText_eq, ht, decodeLossy_encode], ?_⟩
  split
  · rename_i h
    exact detect_of_mark h
  · rename_i h
    rw [body, if_neg h] at ht
    exact detect_of_text h ht

lemma kind?_of_read (h : d.read p = .ok b) : d.kind? p = some .file := by
  obtain ⟨place, hp, h⟩ := Directory.bind_eq_ok.mp h
  rw [Directory.kind?, hp]
  dsimp only at h ⊢
  split at h
  · assumption
  · cases h
  · cases h

lemma readProgramBytes_run (h : d.read p = .ok b) : (readProgramBytes Directory.disk p).run d = (.ok b, d) := by
  have hkind : (Directory.disk.kind? p).run d = (some .file, d) := congrArg (·, d) (kind?_of_read h)
  have hread : (Directory.disk.read p).run d = (.ok b, d) := congrArg (·, d) h
  rw [readProgramBytes, StateT.run_bind, hkind]
  change (Directory.disk.read p >>= fun r => pure (r.mapError (ReadError.failed p))).run d = _
  rw [StateT.run_bind, hread]
  rfl

lemma readProgram_run (h : d.read p = .ok b) : (readProgram Directory.disk p).run d = (.ok (programText b), d) := by
  rw [readProgram, StateT.run_bind, readProgramBytes_run h]
  rfl

/-- A program is read without loss or flagged if what follows its mark is a text. In any case its text is what the
bytes after the mark are told apart into, and without a mark all bytes that are no text are flagged. -/
theorem losslessOrFlagged_iff (b : Bytes) :
    (LosslessOrFlagged b ↔ (byteOrderMark <+: b → ∃ t, body b = encode t)) ∧
    (∀ t, body b = encode t →
      programText b = t ∧ Encoding.detect b = if byteOrderMark <+: b then .utf8Mark else .utf8) ∧
    (∀ t, Decodes (body b) t ↔ t = programText b) ∧
    (Encoding.detect b = .unknown ↔ ¬ byteOrderMark <+: b ∧ ∀ t, body b ≠ encode t) ∧
    ∀ (d : Directory) p, d.read p = .ok b → (readProgram Directory.disk p).run d = (.ok (programText b), d) := by
  have hdecodes : ∀ t, Decodes (body b) t ↔ t = programText b := fun t => programText_eq b ▸ decodes_iff
  refine ⟨⟨fun h hm => ?_, fun h => ⟨fun t => reads_text, fun hb => ?_⟩⟩, fun t => reads_text, hdecodes,
    detect_eq_unknown_iff, fun d p => readProgram_run⟩
  · by_contra hb
    obtain ⟨hd, -⟩ := h.flagged (not_exists.mp hb)
    exact (detect_eq_unknown_iff.mp hd).1 hm
  · have hm : ¬ byteOrderMark <+: b := fun hm => by
      obtain ⟨t, ht⟩ := h hm
      exact hb t ht
    exact ⟨detect_eq_unknown_iff.mpr ⟨hm, hb⟩, (hdecodes _).mpr rfl⟩

theorem not_losslessOrFlagged : ¬ LosslessOrFlagged [0xEF, 0xBB, 0xBF, 0xFF] := by
  -- A mark and a byte that is no character: the byte is replaced, and the mark says UTF-8.
  intro h
  have hb : ∀ t, body [0xEF, 0xBB, 0xBF, 0xFF] ≠ encode t := by
    intro t ht
    have hd : decode? [0xFF] = some t := decode?_eq_some_iff.mpr ht
    have hnone : decode? [0xFF] = none := by decide +kernel
    rw [hnone] at hd
    cases hd
  exact absurd (h.flagged hb).1 (by decide +kernel)

end Toolpath.Files
