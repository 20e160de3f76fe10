import AdMonitor.Condition.Report
import AdMonitor.Proofs.Condition.Evaluation
import Mathlib.Data.Fintype.Option

/-!
# Verdicts and truth

In strong three-valued logic a comparison is unknown when its metric has no
finite value, and the order of children does not matter.  Evaluation finds that
a condition holds just when it is true in that logic, and that it fails only
when it is false; in between it names a metric that is to blame
(`Condition.evaluate_refines_truth`).  A verdict that is known stays the same
whatever fills the gaps of the snapshot (`Condition.evaluate_of_fills`).
-/

namespace AdMonitor

/-! ## Strong three-valued logic -/

namespace Kleene

variable {values : List (Option Bool)} {connective : Connective}

/-- Both of two truth values, of which `none` is the unknown one. -/
def both : Option Bool → Option Bool → Option Bool
  | some true, some true => some true
  | some false, _ | _, some false => some false
  | _, _ => none

def either : Option Bool → Option Bool → Option Bool
  | some false, some false => some false
  | some true, _ | _, some true => some true
  | _, _ => none

def combine : Connective → List (Option Bool) → Option Bool
  | .all, values => values.foldr both (some true)
  | .any, values => values.foldr either (some false)

instance : LeftCommutative both := ⟨by decide⟩

instance : LeftCommutative either := ⟨by decide⟩

/-- The order of the values does not matter. -/
theorem combine_perm {others : List (Option Bool)} (isPerm : values.Perm others) :
    combine connective values = combine connective others := by
  cases connective with
  | all => exact isPerm.foldr_eq _
  | any => exact isPerm.foldr_eq _

section Fold

variable {join : Option Bool → Option Bool → Option Bool} {answer : Bool}

/-- An answer that needs both sides needs all values. -/
theorem foldr_eq_iff_forall (needsBoth : ∀ first rest, join first rest = some answer ↔
      first = some answer ∧ rest = some answer) :
    values.foldr join (some answer) = some answer ↔ ∀ value ∈ values, value = some answer := by
  induction values with
  | nil => simp
  | cons value values ih =>
      rw [List.forall_mem_cons]
      exact (needsBoth _ _).trans (and_congr_right' ih)

/-- An answer that needs one side only, and is not there from the start, needs one value. -/
theorem foldr_eq_iff_mem {start : Option Bool} (isNew : start ≠ some answer)
    (needsOne : ∀ first rest, join first rest = some answer ↔
      some answer = first ∨ rest = some answer) :
    values.foldr join start = some answer ↔ some answer ∈ values := by
  induction values with
  | nil => simpa using isNew
  | cons value values ih =>
      rw [List.mem_cons]
      exact (needsOne _ _).trans (or_congr_right ih)

end Fold

theorem combine_all_eq_true_iff :
    combine .all values = some true ↔ ∀ value ∈ values, value = some true :=
  foldr_eq_iff_forall (by decide)

theorem combine_all_eq_false_iff : combine .all values = some false ↔ some false ∈ values :=
  foldr_eq_iff_mem (by decide) (by decide)

theorem combine_any_eq_true_iff : combine .any values = some true ↔ some true ∈ values :=
  foldr_eq_iff_mem (by decide) (by decide)

theorem combine_any_eq_false_iff :
    combine .any values = some false ↔ ∀ value ∈ values, value = some false :=
  foldr_eq_iff_forall (by decide)

end Kleene

/-! ## Verdicts that say what is true -/

namespace Verdict

/-- Whether a verdict claims no more than a truth value, and misses no truth. -/
structure Refines (verdict : Verdict) (value : Option Bool) : Prop where
  holds_iff : verdict = .holds ↔ value = some true
  of_fails : verdict = .fails → value = some false

theorem refines_ofBool (held : Bool) : (ofBool held).Refines (some held) := by
  cases held with
  | false => exact ⟨by simp [ofBool], fun _ => rfl⟩
  | true => exact ⟨by simp [ofBool], nofun⟩

theorem refines_unknown (metric : String) : (unknown metric).Refines none :=
  ⟨by simp, nofun⟩

variable {α : Type} {items : List α} {verdict other : α → Verdict} {value : α → Option Bool}

theorem combine_refines (connective : Connective)
    (refine_all : ∀ item ∈ items, (verdict item).Refines (value item)) :
    (combine connective (items.map verdict)).Refines
      (Kleene.combine connective (items.map value)) := by
  cases connective with
  | all =>
      constructor
      · rw [Kleene.combine_all_eq_true_iff, List.forall_mem_map, combine,
          firstShortfall_eq_holds_iff, List.forall_mem_map]
        exact forall₂_congr fun item isItem => (refine_all item isItem).holds_iff
      · intro fails
        obtain ⟨item, isItem, itemFails⟩ :=
          List.mem_map.1 (mem_of_firstShortfall fails nofun)
        refine Kleene.combine_all_eq_false_iff.2 (List.mem_map.2 ⟨item, isItem, ?_⟩)
        exact (refine_all item isItem).of_fails itemFails
  | any =>
      constructor
      · rw [Kleene.combine_any_eq_true_iff, List.mem_map, combine, firstSuccess_eq_holds_iff,
          List.mem_map]
        refine exists_congr fun item => and_congr_right fun isItem => ?_
        exact (refine_all item isItem).holds_iff
      · intro fails
        have allFail := List.forall_mem_map.1 (firstSuccess_eq_fails_iff.1 fails).2
        refine Kleene.combine_any_eq_false_iff.2 (List.forall_mem_map.2 fun item isItem => ?_)
        exact (refine_all item isItem).of_fails (allFail item isItem)

/-- A combination of verdicts that is known stays when all that are known stay. -/
theorem combine_of_kept (connective : Connective)
    (kept : ∀ item ∈ items, (verdict item).isUnknown = false → other item = verdict item)
    (isKnown : (combine connective (items.map verdict)).isUnknown = false) :
    combine connective (items.map other) = combine connective (items.map verdict) := by
  cases connective with
  | all =>
      induction items with
      | nil => rfl
      | cons item rest ih =>
          obtain ⟨own, others⟩ := List.forall_mem_cons.1 kept
          cases isVerdict : verdict item with
          | holds =>
              rw [isVerdict] at own
              simp only [List.map_cons, combine, isVerdict, own rfl, firstShortfall] at isKnown ⊢
              exact ih others isKnown
          | fails =>
              rw [isVerdict] at own
              simp only [List.map_cons, combine, isVerdict, own rfl, firstShortfall]
          | unknown metric => simp [combine, isVerdict, firstShortfall, isUnknown] at isKnown
  | any =>
      cases isVerdict : combine .any (items.map verdict) with
      | holds =>
          obtain ⟨item, isItem, holds⟩ :=
            List.mem_map.1 (firstSuccess_eq_holds_iff.1 isVerdict)
          refine firstSuccess_eq_holds_iff.2 (List.mem_map.2 ⟨item, isItem, ?_⟩)
          rw [kept item isItem (holds ▸ rfl), holds]
      | fails =>
          have allFail := List.forall_mem_map.1 (firstSuccess_eq_fails_iff.1 isVerdict).2
          refine firstSuccess_eq_fails_iff.2 ⟨rfl, List.forall_mem_map.2 fun item isItem => ?_⟩
          have fails := allFail item isItem
          rw [kept item isItem (fails ▸ rfl), fails]
      | unknown metric =>
          rw [isVerdict] at isKnown
          cases isKnown

end Verdict

/-! ## The truth of a condition -/

namespace Snapshot

def finite? (snapshot : Snapshot) (metric : String) : Option Float :=
  (snapshot.get? metric).filter Float.isFinite

/-- Whether a snapshot has every finite value of an earlier one; it may have more. -/
def Fills (later earlier : Snapshot) : Prop :=
  ∀ metric value, earlier.finite? metric = some value → later.finite? metric = some value

theorem fills_insert {snapshot : Snapshot} {metric : String} {value : Float}
    (isMissing : snapshot.finite? metric = none) :
    Fills (snapshot.insert metric value) snapshot := by
  intro other actual isFinite
  have differs : other ≠ metric := by
    rintro rfl
    cases isMissing.symm.trans isFinite
  rwa [finite?, Table.get?_insert, if_neg differs]

end Snapshot

namespace Condition

variable {snapshot earlier later : Snapshot} {condition other : Condition}

mutual

/-- The truth value of a condition in strong three-valued logic. -/
def truth (snapshot : Snapshot) : Condition → Option Bool
  | .threshold metric comparison bound =>
      (snapshot.finite? metric).map fun actual => comparison.apply actual bound
  | .composite connective children => Kleene.combine connective (truths snapshot children)

def truths (snapshot : Snapshot) : List Condition → List (Option Bool)
  | [] => []
  | child :: rest => truth snapshot child :: truths snapshot rest

end

/-- Conditions that differ only in the order of the children of their nodes. -/
inductive Rearranges : Condition → Condition → Prop where
  | refl (condition : Condition) : Rearranges condition condition
  | permute (connective : Connective) {children others : List Condition}
      (isPerm : children.Perm others) :
      Rearranges (.composite connective children) (.composite connective others)
  | inside (connective : Connective) (before after : List Condition) {child other : Condition}
      (rearranges : Rearranges child other) :
      Rearranges (.composite connective (before ++ child :: after))
        (.composite connective (before ++ other :: after))
  | trans {first second third : Condition} (earlier : Rearranges first second)
      (later : Rearranges second third) : Rearranges first third

theorem truth_composite (snapshot : Snapshot) (connective : Connective)
    (children : List Condition) : truth snapshot (.composite connective children) =
      Kleene.combine connective (children.map (truth snapshot)) := by
  have listed : truths snapshot children = children.map (truth snapshot) := by
    induction children with
    | nil => rfl
    | cons child rest ih => rw [truths, ih, List.map_cons]
  exact congrArg (Kleene.combine connective) listed

/-- A comparison is decided by the finite value of its metric. -/
theorem compareMetric_eq (snapshot : Snapshot) (metric : String) (comparison : Comparison)
    (bound : Float) : compareMetric snapshot metric comparison bound =
      match snapshot.finite? metric with
      | some actual => .ofBool (comparison.apply actual bound)
      | none => .unknown metric := by
  unfold compareMetric Snapshot.finite?
  cases snapshot.get? metric with
  | none => rfl
  | some actual => cases isFinite : actual.isFinite <;> simp [Option.filter, isFinite]

theorem truth_of_rearranges (rearranges : condition.Rearranges other) :
    other.truth snapshot = condition.truth snapshot := by
  induction rearranges with
  | refl condition => rfl
  | permute connective isPerm =>
      rw [truth_composite, truth_composite]
      exact (Kleene.combine_perm (isPerm.map _)).symm
  | inside connective before after rearranges ih =>
      rw [truth_composite, truth_composite, List.map_append, List.map_append, List.map_cons,
        List.map_cons, ih]
  | trans earlier later ih ih' => exact ih'.trans ih

theorem evaluate_refines (snapshot : Snapshot) (condition : Condition) :
    (condition.evaluate snapshot).Refines (condition.truth snapshot) := by
  induction condition using inductionOn with
  | threshold metric comparison bound =>
      rw [evaluate, compareMetric_eq, truth]
      cases snapshot.finite? metric with
      | none => exact Verdict.refines_unknown metric
      | some actual => exact Verdict.refines_ofBool _
  | composite connective children ih =>
      rw [evaluate_composite, truth_composite]
      exact Verdict.combine_refines connective ih

/-- An unknown verdict names a metric of the condition that has no finite value. -/
theorem gap_of_evaluate {metric : String} (isGap : condition.evaluate snapshot = .unknown metric) :
    metric ∈ condition.mentions ∧ snapshot.finite? metric = none := by
  induction condition using inductionOn with
  | threshold own comparison bound =>
      rw [evaluate, compareMetric_eq] at isGap
      cases isFinite : snapshot.finite? own with
      | none =>
          rw [isFinite] at isGap
          obtain rfl := Verdict.unknown.inj isGap
          exact ⟨List.mem_cons_self, isFinite⟩
      | some actual =>
          rw [isFinite] at isGap
          cases held : comparison.apply actual bound <;> simp [held, Verdict.ofBool] at isGap
  | composite connective children ih =>
      rw [evaluate_composite] at isGap
      obtain ⟨child, isChild, isOwn⟩ := List.mem_map.1 (Verdict.mem_of_combine_eq_unknown isGap)
      obtain ⟨isMentioned, isMissing⟩ := ih child isChild isOwn
      rw [mentions_composite]
      exact ⟨List.mem_flatMap_of_mem isChild isMentioned, isMissing⟩

/--
A condition is found to hold just when it is true, and to fail only when it is
false.  Another order of children at any nodes changes neither the truth value
nor whether the condition is found to hold, so it never turns one answer into
the other.  An unknown verdict names a metric of the condition that is missing
or not finite.
-/
theorem evaluate_refines_truth (snapshot : Snapshot) (condition : Condition) :
    (condition.evaluate snapshot = .holds ↔ condition.truth snapshot = some true) ∧
      (condition.evaluate snapshot = .fails → condition.truth snapshot = some false) ∧
      (∀ other, condition.Rearranges other →
        other.truth snapshot = condition.truth snapshot ∧
        (other.evaluate snapshot = .holds ↔ condition.evaluate snapshot = .holds) ∧
        (condition.evaluate snapshot = .holds → other.evaluate snapshot ≠ .fails) ∧
        (condition.evaluate snapshot = .fails → other.evaluate snapshot ≠ .holds)) ∧
      ∀ metric, condition.evaluate snapshot = .unknown metric →
        condition.metrics.has metric = true ∧ snapshot.finite? metric = none := by
  have refines := evaluate_refines snapshot condition
  refine ⟨refines.holds_iff, refines.of_fails, ?_, ?_⟩
  · intro other rearranges
    have sameTruth : other.truth snapshot = condition.truth snapshot :=
      truth_of_rearranges rearranges
    have sameHolds : other.evaluate snapshot = .holds ↔ condition.evaluate snapshot = .holds := by
      rw [(evaluate_refines snapshot other).holds_iff, refines.holds_iff, sameTruth]
    refine ⟨sameTruth, sameHolds, ?_, ?_⟩
    · intro holds
      rw [sameHolds.2 holds]
      exact nofun
    · intro fails otherHolds
      cases fails.symm.trans (sameHolds.1 otherHolds)
  · intro metric isGap
    obtain ⟨isMentioned, isMissing⟩ := gap_of_evaluate isGap
    exact ⟨NameSet.has_ofNames.2 isMentioned, isMissing⟩

/-- The return on the spend is asked for first, then the spend itself. -/
def exampleCondition : Condition :=
  .composite .all [.threshold "roas" .below 1, .threshold "spend" .above 200]

def exampleSwapped : Condition :=
  .composite .all [.threshold "spend" .above 200, .threshold "roas" .below 1]

def exampleSnapshot : Snapshot := .ofList [("roas", 0.0 / 0.0), ("spend", 150)]

/-- The condition is false because of the spend, but evaluation stops at the gap before it. -/
theorem evaluate_refines_truth_exampleCondition :
    exampleCondition.Rearranges exampleSwapped ∧
      exampleSwapped.evaluate exampleSnapshot = .fails ∧
      exampleCondition.truth exampleSnapshot = some false ∧
      exampleCondition.evaluate exampleSnapshot = .unknown "roas" ∧
      exampleCondition.metrics.has "roas" = true ∧ exampleSnapshot.finite? "roas" = none := by
  have rearranges : exampleCondition.Rearranges exampleSwapped := .permute .all (.swap _ _ _)
  have fails : exampleSwapped.evaluate exampleSnapshot = .fails := by decide +kernel
  have isGap : exampleCondition.evaluate exampleSnapshot = .unknown "roas" := by decide +kernel
  obtain ⟨-, -, orders, gaps⟩ := evaluate_refines_truth exampleSnapshot exampleCondition
  obtain ⟨-, isFalse, -, -⟩ := evaluate_refines_truth exampleSnapshot exampleSwapped
  have sameTruth := (orders exampleSwapped rearranges).1
  exact ⟨rearranges, fails, sameTruth.symm.trans (isFalse fails), isGap, gaps "roas" isGap⟩

/-- A verdict that is known does not depend on what is missing. -/
theorem evaluate_of_fills (fills : later.Fills earlier)
    (isKnown : (condition.evaluate earlier).isUnknown = false) :
    condition.evaluate later = condition.evaluate earlier := by
  induction condition using inductionOn with
  | threshold metric comparison bound =>
      simp only [evaluate, compareMetric_eq] at isKnown ⊢
      cases isFinite : earlier.finite? metric with
      | none => simp [isFinite, Verdict.isUnknown] at isKnown
      | some actual => rw [fills metric actual isFinite]
  | composite connective children ih =>
      rw [evaluate_composite] at isKnown
      rw [evaluate_composite, evaluate_composite]
      exact Verdict.combine_of_kept connective ih isKnown

def exampleEither : Condition :=
  .composite .any [.threshold "roas" .below 1, .threshold "spend" .above 100]

def exampleFilled : Snapshot := exampleSnapshot.insert "roas" 3

/-- The spend has decided; that the return turns out to be high does not matter. -/
theorem evaluate_of_fills_exampleEither :
    exampleFilled.Fills exampleSnapshot ∧ exampleEither.evaluate exampleSnapshot = .holds ∧
      exampleEither.evaluate exampleFilled = .holds := by
  have isMissing : exampleSnapshot.finite? "roas" = none := by decide +kernel
  have fills : exampleFilled.Fills exampleSnapshot := Snapshot.fills_insert isMissing
  have holds : exampleEither.evaluate exampleSnapshot = .holds := by decide +kernel
  exact ⟨fills, holds, (evaluate_of_fills fills (holds ▸ rfl)).trans holds⟩

end Condition

end AdMonitor
