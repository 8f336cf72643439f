import Mathlib.Data.List.Chain
import Remap.Text.Lowercase

/-!
# Lower case is final

A text in lower case is its own lower-case form (`lowercase_lowercase`). Character by
character this is a fact about the table of runs: what a run leads to is in no run
(`covers_eq_false_of_covers`), and is none of the two characters that have rules of their
own. The rule for the capital sigma, the only one that looks around, finds none left.

The table is in order, so only one of its runs can be near the characters that a run
leads to. That they keep clear of this one is left to computation.
-/

namespace Remap.Text

/-- Whether a character is its own lower-case form, wherever it stands. -/
def IsLower (c : Char) : Prop := c ≠ '\u0130' ∧ c ≠ 'Σ' ∧ lowerChar c = c

instance (c : Char) : Decidable (IsLower c) :=
  inferInstanceAs (Decidable (c ≠ '\u0130' ∧ c ≠ 'Σ' ∧ lowerChar c = c))

/-! ## Runs -/

namespace CaseRun

/-- The first partner of a run. -/
def lowest (run : CaseRun) : Nat := (run.first + run.shift).toNat

/-- The last partner of a run. -/
def highest (run : CaseRun) : Nat := (run.last + run.shift).toNat

/-- Whether a run stops before another begins. -/
def IsBefore (a b : CaseRun) : Prop := a.first ≤ a.last ∧ a.last + a.step ≤ b.first

instance (a b : CaseRun) : Decidable (IsBefore a b) :=
  inferInstanceAs (Decidable (_ ∧ _))

instance : Trans IsBefore IsBefore IsBefore where
  trans := by
    rintro a b c ⟨ha, hab⟩ ⟨hb, hbc⟩
    exact ⟨ha, by omega⟩

/-- Whether the partners of a run come before another run, or take turns with it. -/
def clears (run other : CaseRun) : Bool :=
  Nat.blt run.highest other.first ||
    Nat.beq other.step 2 && (Nat.beq run.step 2 || Nat.beq run.first run.last) &&
      Nat.beq ((other.first + run.lowest) % 2) 1 && Nat.ble run.highest (other.last + 1)

/-- Whether the partners of a run keep clear of the first run that does not stop before them. -/
def isClear (run : CaseRun) : Bool :=
  match lowercaseRuns.find? fun other => Nat.ble run.lowest other.last with
  | some other => run.clears other
  | none => true

/-- Whether the partners of a run are characters without a rule of their own, beyond ASCII or
among its small letters. -/
def isPlain (run : CaseRun) : Bool :=
  (Nat.blt 127 run.lowest || Nat.blt 96 run.lowest && Nat.blt run.highest 123) &&
  (Nat.blt run.highest 0x130 || Nat.blt 0x130 run.lowest) &&
  (Nat.blt run.highest 0x3A3 || Nat.blt 0x3A3 run.lowest) &&
  (Nat.blt run.highest 0xD800 || Nat.blt 0xDFFF run.lowest && Nat.blt run.highest 0x110000)

theorem exists_of_covers {run : CaseRun} {code : Nat} (h : run.covers code) :
    ∃ k, code = run.first + run.step * k ∧ code ≤ run.last := by
  unfold covers at h
  simp only [Bool.and_eq_true, decide_eq_true_eq, beq_iff_eq] at h
  obtain ⟨⟨hfirst, hlast⟩, hstep⟩ := h
  refine ⟨(code - run.first) / run.step, ?_, hlast⟩
  rw [Nat.mul_div_cancel' (Nat.dvd_of_mod_eq_zero hstep)]
  omega

/-- A partner of a run lies between the first and the last. -/
theorem bounds_of_covers {run : CaseRun} {code : Nat} (h : run.covers code) :
    run.lowest ≤ (code + run.shift).toNat ∧ (code + run.shift).toNat ≤ run.highest := by
  obtain ⟨k, rfl, hlast⟩ := exists_of_covers h
  unfold lowest highest
  omega

/-- A partner of a run is not in a run that its partners keep clear of, nor in one behind. -/
theorem covers_eq_false_of_clears {run near other : CaseRun} (hpos : 0 < run.lowest)
    (hclears : run.clears near) (hother : near = other ∨ near.IsBefore other) {code : Nat}
    (hcode : run.covers code) : other.covers (code + run.shift).toNat = false := by
  refine Bool.eq_false_iff.mpr fun hcovers => ?_
  have hbounds := bounds_of_covers hcode
  obtain ⟨k, hk, hlast⟩ := exists_of_covers hcode
  obtain ⟨l, hl, hotherLast⟩ := exists_of_covers hcovers
  simp only [clears, Bool.or_eq_true, Bool.and_eq_true, Nat.blt_eq, Nat.beq_eq, Nat.ble_eq]
    at hclears
  rcases hclears with hbelow | ⟨⟨⟨htwo, hsteps⟩, hodd⟩, hhighest⟩
  · rcases hother with rfl | ⟨hnear, hbehind⟩ <;> omega
  · rcases hother with rfl | ⟨-, hbehind⟩
    · -- Both go in steps of two, or there is one partner only, and it falls between the others.
      unfold lowest at hpos hodd
      rw [htwo] at hl
      rcases hsteps with hstep | hsingle
      · rw [hstep] at hk
        omega
      · omega
    · omega

end CaseRun

theorem isChain_lowercaseRuns : lowercaseRuns.IsChain CaseRun.IsBefore := by
  decide +kernel

theorem isPlain_and_isClear :
    (lowercaseRuns.all fun run => run.isPlain && run.isClear) = true := by
  decide +kernel

/-- What a run leads to is in no run. -/
theorem covers_eq_false_of_covers {run : CaseRun} (hpos : 0 < run.lowest)
    (hclear : run.isClear) {code : Nat} (h : run.covers code) {other : CaseRun}
    (hother : other ∈ lowercaseRuns) : other.covers (code + run.shift).toNat = false := by
  have hlowest := (CaseRun.bounds_of_covers h).1
  have hbefore (hend : ¬ Nat.ble run.lowest other.last) :
      other.covers (code + run.shift).toNat = false := by
    refine Bool.eq_false_iff.mpr fun hcovers => ?_
    obtain ⟨l, -, hlast⟩ := CaseRun.exists_of_covers hcovers
    rw [Nat.ble_eq] at hend
    omega
  unfold CaseRun.isClear at hclear
  split at hclear
  · next near hnear =>
      obtain ⟨-, before, behind, hruns, hends⟩ := List.find?_eq_some_iff_append.mp hnear
      have hpairwise := List.isChain_iff_pairwise.mp isChain_lowercaseRuns
      rw [hruns] at hother hpairwise
      rcases List.mem_append.mp hother with hmem | hmem
      · exact hbefore (by simpa only [Bool.not_eq_true, Bool.not_eq_true'] using hends other hmem)
      · refine CaseRun.covers_eq_false_of_clears hpos hclear ?_ h
        rcases List.mem_cons.mp hmem with heq | hmem
        · exact Or.inl heq.symm
        · have hbehind := List.pairwise_cons.mp (List.pairwise_append.mp hpairwise).2.1
          exact Or.inr (hbehind.1 other hmem)
  · next hnone => exact hbefore (List.find?_eq_none.mp hnone other hother)

/-! ## Characters -/

theorem isLower_toLower_of_ascii : ∀ code : Fin 128, IsLower (Char.ofNat code).toLower := by
  decide +kernel

theorem isLower_smallLetter :
    ∀ code : Fin 128, 96 < code.val → code.val < 123 → IsLower (Char.ofNat code) := by
  decide +kernel

theorem toNat_ofNat {code : Nat} (h : code.isValidChar) : (Char.ofNat code).toNat = code := by
  rw [Char.ofNat, dif_pos h]
  rfl

theorem isLower_of_covers {run : CaseRun} (hrun : run ∈ lowercaseRuns) {code : Nat}
    (h : run.covers code) : IsLower (Char.ofNat (code + run.shift).toNat) := by
  have hchecked := List.all_eq_true.mp isPlain_and_isClear run hrun
  rw [Bool.and_eq_true] at hchecked
  obtain ⟨hplain, hclear⟩ := hchecked
  simp only [CaseRun.isPlain, Bool.and_eq_true, Bool.or_eq_true, Nat.blt_eq] at hplain
  obtain ⟨⟨⟨hascii, hdotted⟩, hsigma⟩, hvalid⟩ := hplain
  have hbounds := CaseRun.bounds_of_covers h
  have hnone : ∀ other ∈ lowercaseRuns, other.covers (code + run.shift).toNat = false :=
    fun other hother => covers_eq_false_of_covers (by omega) hclear h hother
  generalize (code + run.shift).toNat = n at *
  have hchar : n.isValidChar := by
    unfold Nat.isValidChar
    omega
  have hcode := toNat_ofNat hchar
  by_cases hsmall : n < 128
  · exact isLower_smallLetter ⟨n, hsmall⟩ (show 96 < n by omega) (show n < 123 by omega)
  · refine ⟨?_, ?_, ?_⟩
    · intro heq
      rw [heq] at hcode
      have : n = 0x130 := hcode.symm
      omega
    · intro heq
      rw [heq] at hcode
      have : n = 0x3A3 := hcode.symm
      omega
    · rw [lowerChar, hcode, if_neg hsmall, List.find?_eq_none.mpr (by simpa using hnone)]

/-- A character that has no rule of its own comes to one in lower case. -/
theorem isLower_lowerChar {c : Char} (hdotted : c ≠ '\u0130') (hsigma : c ≠ 'Σ') :
    IsLower (lowerChar c) := by
  unfold lowerChar
  split
  · next hascii =>
      have h := isLower_toLower_of_ascii ⟨c.toNat, hascii⟩
      rwa [Char.ofNat_toNat] at h
  · next hbeyond =>
      split
      · next run hrun =>
          have hcovers : run.covers c.toNat := by simpa using List.find?_some hrun
          exact isLower_of_covers (List.mem_of_find?_eq_some hrun) hcovers
      · next hnone =>
          refine ⟨hdotted, hsigma, ?_⟩
          rw [lowerChar, if_neg hbeyond, hnone]

/-! ## Texts -/

theorem isLower_of_mem_lowerFrom {before text : List Char} :
    ∀ c ∈ lowerFrom before text, IsLower c := by
  induction text generalizing before with
  | nil =>
      intro c hc
      cases hc
  | cons d rest ih =>
      intro c hc
      simp only [lowerFrom, List.mem_append] at hc
      rcases hc with hc | hc
      · split at hc
        · rw [List.mem_cons, List.mem_singleton] at hc
          rcases hc with rfl | rfl <;> decide +kernel
        · next hdotted =>
            split at hc
            · rw [List.mem_singleton] at hc
              subst hc
              split <;> decide +kernel
            · next hsigma =>
                rw [List.mem_singleton] at hc
                subst hc
                exact isLower_lowerChar (by simpa using hdotted) (by simpa using hsigma)
      · exact ih c hc

theorem lowerFrom_of_isLower {before text : List Char} (h : ∀ c ∈ text, IsLower c) :
    lowerFrom before text = text := by
  induction text generalizing before with
  | nil => rfl
  | cons c rest ih =>
      obtain ⟨⟨hdotted, hsigma, hlower⟩, hrest⟩ := List.forall_mem_cons.mp h
      simp [lowerFrom, hdotted, hsigma, hlower, ih hrest]

theorem lowercase_of_isLower {text : String} (h : ∀ c ∈ text.toList, IsLower c) :
    lowercase text = text := by
  rw [lowercase, lower, lowerFrom_of_isLower h, String.ofList_toList]

theorem isLower_of_mem_lowercase {text : String} : ∀ c ∈ (lowercase text).toList, IsLower c := by
  rw [lowercase, String.toList_ofList]
  exact isLower_of_mem_lowerFrom

theorem lowercase_lowercase (text : String) : lowercase (lowercase text) = lowercase text :=
  lowercase_of_isLower isLower_of_mem_lowercase

end Remap.Text
