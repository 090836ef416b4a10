import Mathlib

/-!
# Two copies of one stream

One list of inputs is delivered twice, each copy in order and at its own speed.
A delivery trails when the other copy has made it before, and leads otherwise:
the leading deliveries are the stream, and the trailing ones repeat a part of
it. `Interleaving.induction` is the rule for what every such run keeps.
-/
namespace Mirror

variable {ι : Type}

inductive Copy where
  | first | second
  deriving DecidableEq, Repr

def Copy.other : Copy → Copy
  | .first => .second
  | .second => .first

/-- What a copy has delivered, in order. -/
def delivered (copy : Copy) (run : List (Copy × ι)) : List ι :=
  (run.filter fun delivery => delivery.1 = copy).map Prod.snd

/-- Each copy delivers the whole stream in its order. -/
structure Interleaving (inputs : List ι) (run : List (Copy × ι)) : Prop where
  copies : ∀ copy, delivered copy run = inputs

/-- The other copy has delivered more. -/
def Behind (copy : Copy) (run : List (Copy × ι)) : Prop :=
  (delivered copy run).length < (delivered copy.other run).length

instance (copy : Copy) (run : List (Copy × ι)) : Decidable (Behind copy run) :=
  inferInstanceAs (Decidable ((delivered copy run).length < (delivered copy.other run).length))

/-- What has been delivered at least once. -/
def leading (run : List (Copy × ι)) : List ι :=
  if Behind .first run then delivered .second run else delivered .first run

@[simp] theorem delivered_nil (copy : Copy) : delivered copy ([] : List (Copy × ι)) = [] := rfl

theorem delivered_append (copy : Copy) (xs ys : List (Copy × ι)) :
    delivered copy (xs ++ ys) = delivered copy xs ++ delivered copy ys := by
  simp [delivered]

theorem delivered_snoc (copy : Copy) (run : List (Copy × ι)) (input : ι) :
    delivered copy (run ++ [(copy, input)]) = delivered copy run ++ [input] := by
  simp [delivered]

theorem delivered_snoc_other (copy : Copy) (run : List (Copy × ι)) (input : ι) :
    delivered copy.other (run ++ [(copy, input)]) = delivered copy.other run := by
  cases copy <;> simp [delivered, Copy.other]

theorem length_delivered (run : List (Copy × ι)) :
    (delivered .first run).length + (delivered .second run).length = run.length := by
  induction run with
  | nil => rfl
  | cons delivery rest ih =>
    rcases delivery with ⟨copy, input⟩
    cases copy <;> simp only [delivered, List.filter_cons, List.length_map] at ih ⊢ <;>
      simp <;> omega

/-- Whatever is read off the deliveries, one copy delivered the last of it. -/
theorem exists_copy_last {γ : Type} (g : ι → Option γ) (run : List (Copy × ι)) :
    ∃ copy, ((run.map Prod.snd).filterMap g).getLast? = ((delivered copy run).filterMap g).getLast? := by
  induction run using List.reverseRecOn with
  | nil => exact ⟨.first, rfl⟩
  | append_singleton run delivery ih =>
    rcases delivery with ⟨copy, input⟩
    cases hread : g input with
    | some found =>
      refine ⟨copy, ?_⟩
      rw [delivered_snoc, List.map_append, List.filterMap_append, List.filterMap_append]
      simp [hread]
    | none =>
      obtain ⟨last, hlast⟩ := ih
      refine ⟨last, ?_⟩
      have hsame : (delivered last (run ++ [(copy, input)])).filterMap g =
          (delivered last run).filterMap g := by
        rw [delivered_append, List.filterMap_append]
        unfold delivered
        rw [List.filter_singleton]
        by_cases hmine : copy = last <;> simp [hmine, hread]
      rw [hsame, ← hlast, List.map_append, List.filterMap_append]
      simp [hread]

namespace Interleaving

variable {inputs : List ι} {run before after : List (Copy × ι)} {copy : Copy} {input : ι}

theorem prefix_of_append (h : Interleaving inputs (before ++ after)) (copy : Copy) :
    delivered copy before <+: inputs := by
  rw [← h.copies copy, delivered_append]
  exact List.prefix_append _ _

theorem length_run (h : Interleaving inputs run) : run.length = 2 * inputs.length := by
  have htotal := length_delivered run
  rw [h.copies .first, h.copies .second] at htotal
  omega

/-- A copy that is not behind has delivered whatever was delivered. -/
theorem leading_of_ahead (h : Interleaving inputs (before ++ after))
    (hahead : (delivered copy.other before).length ≤ (delivered copy before).length) :
    leading before = delivered copy before := by
  unfold leading
  cases copy with
  | first => exact if_neg (Nat.not_lt.mpr hahead)
  | second =>
    split
    · rfl
    · next hequal =>
      -- as long as the other, and both are prefixes of the stream
      have hprefix : delivered .first before <+: delivered .second before :=
        List.prefix_of_prefix_length_le (h.prefix_of_append .first) (h.prefix_of_append .second)
          hahead
      exact hprefix.eq_of_length (Nat.le_antisymm hahead (Nat.not_lt.mp hequal))

/-- A delivery either repeats one of the other copy or is the next of the stream. -/
theorem delivery_cases (h : Interleaving inputs (before ++ (copy, input) :: after)) :
    (Behind copy before ∧ leading (before ++ [(copy, input)]) = leading before ∧
      input ∈ leading before) ∨
    (¬ Behind copy before ∧ leading (before ++ [(copy, input)]) = leading before ++ [input] ∧
      ∃ rest, inputs = leading before ++ input :: rest) := by
  have hnext : Interleaving inputs ((before ++ [(copy, input)]) ++ after) := by simpa using h
  have hmine := hnext.prefix_of_append copy
  rw [delivered_snoc] at hmine
  by_cases hbehind : Behind copy before
  · left
    have htheirs := h.prefix_of_append copy.other
    have hwithin : delivered copy before ++ [input] <+: delivered copy.other before := by
      apply List.prefix_of_prefix_length_le hmine htheirs
      rw [List.length_append, List.length_singleton]
      exact hbehind
    have hother : copy.other.other = copy := by cases copy <;> rfl
    have hbefore : leading before = delivered copy.other before := by
      apply h.leading_of_ahead
      rw [hother]
      exact hbehind.le
    have hafter : leading (before ++ [(copy, input)]) = delivered copy.other before := by
      rw [← delivered_snoc_other copy before input]
      apply hnext.leading_of_ahead
      rw [hother, delivered_snoc, delivered_snoc_other]
      exact hwithin.length_le
    refine ⟨hbehind, hafter.trans hbefore.symm, ?_⟩
    rw [hbefore]
    exact hwithin.subset (by simp)
  · right
    have hahead : (delivered copy.other before).length ≤ (delivered copy before).length :=
      Nat.not_lt.mp hbehind
    have hbefore := h.leading_of_ahead hahead
    have hafter : leading (before ++ [(copy, input)]) = delivered copy before ++ [input] := by
      rw [← delivered_snoc copy before input]
      apply hnext.leading_of_ahead
      rw [delivered_snoc, delivered_snoc_other, List.length_append]
      omega
    refine ⟨hbehind, by rw [hafter, hbefore], ?_⟩
    obtain ⟨rest, hrest⟩ := hmine
    exact ⟨rest, by rw [hbefore, ← hrest, List.append_assoc]; rfl⟩

/-- What the leading deliveries pass on and the trailing ones keep holds throughout. -/
theorem induction {P : List (Copy × ι) → Prop} (h : Interleaving inputs run) (hnil : P [])
    (hlead : ∀ before copy input after rest, run = before ++ (copy, input) :: after →
      inputs = leading before ++ input :: rest →
      leading (before ++ [(copy, input)]) = leading before ++ [input] →
      ¬ Behind copy before → P before → P (before ++ [(copy, input)]))
    (htrail : ∀ before copy input after, run = before ++ (copy, input) :: after →
      input ∈ leading before → leading (before ++ [(copy, input)]) = leading before →
      Behind copy before → P before → P (before ++ [(copy, input)]))
    (before : List (Copy × ι)) : ∀ after, run = before ++ after → P before := by
  induction before using List.reverseRecOn with
  | nil => exact fun _ _ => hnil
  | append_singleton before delivery ih =>
    intro after hrun
    rcases delivery with ⟨copy, input⟩
    have hsplit : run = before ++ (copy, input) :: after := by simpa using hrun
    have hbefore := ih _ hsplit
    rcases (hsplit ▸ h).delivery_cases with ⟨hbehind, hsame, hmem⟩ | ⟨hahead, hmore, rest, hrest⟩
    · exact htrail before copy input after hsplit hmem hsame hbehind hbefore
    · exact hlead before copy input after rest hsplit hrest hmore hahead hbefore

theorem leading_run (h : Interleaving inputs run) : leading run = inputs := by
  unfold leading
  rw [h.copies .first, h.copies .second, ite_self]

end Interleaving

end Mirror
