import EnclaveRegistry.Http.Target
import EnclaveRegistry.Proofs.Text.Hex
import Mathlib.Data.List.TakeWhile

/-! # The parts of a target

A target in which no octet has a meaning of its own is all path, its parts are what stands between
its slashes, and each part stands for itself. Any octets can be written as a part of a path, with
percent signs where they are needed.
-/
namespace EnclaveRegistry.Http

variable {separator : UInt8} {bytes : Bytes}

theorem bne_of_not_mem (h : separator ∉ bytes) : ∀ b ∈ bytes, (b != separator) = true := by
  intro b hb
  have hne : b ≠ separator := fun heq => h (heq ▸ hb)
  simp [hne]

theorem splitFirst_of_not_mem (h : separator ∉ bytes) :
    splitFirst separator bytes = (bytes, []) := by
  rw [splitFirst, List.takeWhile_eq_self_iff.2 (bne_of_not_mem h),
    List.dropWhile_eq_nil_iff.2 (bne_of_not_mem h)]
  rfl

theorem splitFirst_append (h : separator ∉ bytes) (rest : Bytes) :
    splitFirst separator (bytes ++ separator :: rest) = (bytes, rest) := by
  rw [splitFirst, List.takeWhile_append_of_pos (bne_of_not_mem h),
    List.dropWhile_append_of_pos (bne_of_not_mem h)]
  simp

theorem path_eq_self (hquery : 63 ∉ bytes) (hfragment : 35 ∉ bytes) : path bytes = bytes := by
  rw [path, splitFirst_of_not_mem hfragment, splitFirst_of_not_mem hquery]

theorem path_append (hquery : 63 ∉ bytes) (hfragment : 35 ∉ bytes) (rest : Bytes) :
    path (bytes ++ 63 :: rest) = bytes := by
  have hfront : (splitFirst 35 (bytes ++ 63 :: rest)).1 =
      bytes ++ 63 :: rest.takeWhile (· != 35) := by
    rw [splitFirst, List.takeWhile_append_of_pos (bne_of_not_mem hfragment)]
    rfl
  rw [path, hfront, splitFirst_append hquery]

theorem split_of_not_mem (h : separator ∉ bytes) : split separator bytes = [bytes] := by
  induction bytes with
  | nil => rfl
  | cons b rest ih =>
    obtain ⟨hne, hrest⟩ := List.ne_and_not_mem_of_not_mem_cons h
    rw [split, if_neg (Ne.symm hne), ih hrest]

theorem split_append (h : separator ∉ bytes) (rest : Bytes) :
    split separator (bytes ++ separator :: rest) = bytes :: split separator rest := by
  induction bytes with
  | nil => rw [List.nil_append, split, if_pos rfl]
  | cons b before ih =>
    obtain ⟨hne, hbefore⟩ := List.ne_and_not_mem_of_not_mem_cons h
    rw [List.cons_append, split, if_neg (Ne.symm hne), ih hbefore]

theorem unescape_cons_of_ne {octet : UInt8} (h : octet ≠ 37) (rest : Bytes) :
    unescape (octet :: rest) = octet :: unescape rest := by
  rw [unescape]
  intro high low tail heq
  exact absurd heq h

/-- Whether a part of a path stands for octets: each octet stands for itself or is given by two
digits behind a percent sign, and a percent sign without two digits stands for itself. -/
inductive Escapes : (raw octets : Bytes) → Prop
  | nil : Escapes [] []
  | plain {octet : UInt8} {raw octets : Bytes} (plain : octet ∉ [35, 37, 47, 63])
      (rest : Escapes raw octets) : Escapes (octet :: raw) (octet :: octets)
  | digits {high low octet : UInt8} {raw octets : Bytes}
      (upper : Hex.digitValue? high = some (octet.toNat / 16))
      (lower : Hex.digitValue? low = some (octet.toNat % 16)) (rest : Escapes raw octets) :
    Escapes (37 :: high :: low :: raw) (octet :: octets)
  | stray {raw octets : Bytes} (stray : ∀ high low rest, raw = high :: low :: rest →
      Hex.digitValue? high = none ∨ Hex.digitValue? low = none) (rest : Escapes raw octets) :
    Escapes (37 :: raw) (37 :: octets)

/-- Whether octets can stand between two slashes of a path. -/
structure IsPart (raw : Bytes) : Prop where
  ne_nil : raw ≠ []
  not_mem : ∀ octet ∈ [35, 47, 63], octet ∉ raw

variable {raw octets : Bytes}

theorem Escapes.self (h : ∀ octet ∈ raw, octet ∉ [35, 37, 47, 63]) : Escapes raw raw := by
  induction raw with
  | nil => exact .nil
  | cons octet rest ih =>
    obtain ⟨hoctet, hrest⟩ := List.forall_mem_cons.1 h
    exact .plain hoctet (ih hrest)

theorem Escapes.unescape_eq (h : Escapes raw octets) : unescape raw = octets := by
  induction h with
  | nil => rw [unescape]
  | plain hplain _ ih =>
    simp only [List.mem_cons, not_or] at hplain
    rw [unescape_cons_of_ne hplain.2.1, ih]
  | @digits high low octet raw octets upper lower _ ih =>
    have hoctet : 16 * (octet.toNat / 16) + octet.toNat % 16 = octet.toNat := by omega
    rw [unescape]
    simp only [upper, lower, hoctet, UInt8.ofNat_toNat, ih]
  | @stray raw octets stray _ ih =>
    rw [← ih]
    cases raw with
    | nil => rfl
    | cons high rest =>
      cases rest with
      | nil => rfl
      | cons low tail =>
        rw [unescape]
        rcases stray high low tail rfl with hhigh | hlow
        · rw [hhigh]
        · rw [hlow]
          cases Hex.digitValue? high <;> rfl

theorem Escapes.not_mem (h : Escapes raw octets) : ∀ octet ∈ [35, 47, 63], octet ∉ raw := by
  have hnone : ∀ octet ∈ [35, 47, 63], Hex.digitValue? octet = none ∧ octet ≠ 37 := by
    decide +kernel
  have hescaped : ∀ octet : UInt8, octet ∈ [35, 47, 63] → octet ∈ [35, 37, 47, 63] := by
    simp +contextual
  intro octet hoctet
  induction h with
  | nil => exact List.not_mem_nil
  | plain hplain _ ih =>
    refine List.not_mem_cons_of_ne_of_not_mem ?_ ih
    rintro rfl
    exact hplain (hescaped octet hoctet)
  | digits upper lower _ ih =>
    simp only [List.mem_cons, not_or]
    refine ⟨(hnone octet hoctet).2, ?_, ?_, ih⟩
    · rintro rfl
      rw [(hnone _ hoctet).1] at upper
      cases upper
    · rintro rfl
      rw [(hnone _ hoctet).1] at lower
      cases lower
  | stray _ _ ih => exact List.not_mem_cons_of_ne_of_not_mem (hnone octet hoctet).2 ih

theorem Escapes.isPart (h : Escapes raw octets) (hne : octets ≠ []) : IsPart raw := by
  refine ⟨?_, h.not_mem⟩
  rintro rfl
  cases h
  exact hne rfl

end EnclaveRegistry.Http
