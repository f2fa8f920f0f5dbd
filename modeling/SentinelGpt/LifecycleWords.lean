import SentinelGpt.ScanLifecycle
import Mathlib.Computability.RegularExpressions

/-! The words of statuses a fingerprint may collect: it is found for the first time, found
again, resolved, and found again after that. -/
namespace SentinelGpt
/- NEW PERSISTENT* (RESOLVED REGRESSED PERSISTENT*)*. -/
def openPattern : RegularExpression LifecycleStatus :=
  .char .new * .star (.char .persistent) *
    .star (.char .resolved * .char .regressed * .star (.char .persistent))

def lifecyclePattern : RegularExpression LifecycleStatus := openPattern * (1 + .char .resolved)

inductive OpenWord : List LifecycleStatus → Prop where
  | new : OpenWord [.new]
  | persistent {w} (before : OpenWord w) : OpenWord (w ++ [.persistent])
  | regressed {w} (before : OpenWord w) : OpenWord (w ++ [.resolved, .regressed])

inductive RecordedWord : List LifecycleStatus → Prop where
  | none : RecordedWord []
  | opened {w} (word : OpenWord w) : RecordedWord w
  | resolved {w} (word : OpenWord w) : RecordedWord (w ++ [.resolved])

theorem starSnoc {α : Type} {l : Language α} {x y : List α} (before : x ∈ KStar.kstar l) (last : y ∈ l) :
    x ++ y ∈ KStar.kstar l := by
  obtain ⟨parts, rfl, all⟩ := Language.mem_kstar.mp before
  refine Language.mem_kstar.mpr ⟨parts ++ [y], by simp, fun z member => ?_⟩
  rcases List.mem_append.mp member with old | new
  · exact all z old
  · rwa [List.mem_singleton.mp new]

theorem starEmpty {α : Type} (l : Language α) : ([] : List α) ∈ KStar.kstar l :=
  Language.mem_kstar.mpr ⟨[], rfl, by simp⟩

theorem starCases {α : Type} {l : Language α} {x : List α} (word : x ∈ KStar.kstar l) :
    x = [] ∨ ∃ u ∈ KStar.kstar l, ∃ v ∈ l, x = u ++ v := by
  obtain ⟨parts, rfl, all⟩ := Language.mem_kstar.mp word
  rcases List.eq_nil_or_concat parts with rfl | ⟨before, last, rfl⟩
  · exact .inl rfl
  · simp only [List.concat_eq_append] at all ⊢
    refine .inr ⟨before.flatten, Language.mem_kstar.mpr ⟨before, rfl, fun z member => ?_⟩, last, ?_, ?_⟩
    · exact all z (List.mem_append_left _ member)
    · exact all last (by simp)
    · simp

theorem openMatches {w : List LifecycleStatus} (word : OpenWord w) : w ∈ openPattern.matches' := by
  induction word with
  | new => exact ⟨[.new], ⟨[.new], rfl, [], starEmpty _, rfl⟩, [], starEmpty _, rfl⟩
  | persistent before ih =>
    obtain ⟨u, ⟨first, new, found, repeated, rfl⟩, v, rounds, rfl⟩ := ih
    have once : [LifecycleStatus.persistent] ∈
        (RegularExpression.char LifecycleStatus.persistent).matches' := rfl
    rcases starCases rounds with rfl | ⟨earlier, rounds', last, ⟨x, cycle, y, again, rfl⟩, rfl⟩
    · exact ⟨_, ⟨first, new, found ++ [.persistent], starSnoc repeated once, rfl⟩, [], starEmpty _,
        by simp⟩
    · exact ⟨_, ⟨first, new, found, repeated, rfl⟩, earlier ++ (x ++ (y ++ [.persistent])),
        starSnoc rounds' ⟨x, cycle, y ++ [.persistent], starSnoc again once, rfl⟩, by simp⟩
  | regressed before ih =>
    obtain ⟨u, first, v, rounds, rfl⟩ := ih
    refine ⟨u, first, v ++ [.resolved, .regressed], starSnoc rounds ?_, by simp⟩
    exact ⟨[.resolved, .regressed], ⟨[.resolved], rfl, [.regressed], rfl, rfl⟩, [], starEmpty _, rfl⟩

theorem recordedMatches {w : List LifecycleStatus} (word : RecordedWord w) :
    w = [] ∨ w ∈ lifecyclePattern.matches' := by
  cases word with
  | none => exact .inl rfl
  | opened word => exact .inr ⟨w, openMatches word, [], .inl rfl, by simp⟩
  | resolved word => exact .inr ⟨_, openMatches word, [.resolved], .inr rfl, rfl⟩

theorem openLast {w : List LifecycleStatus} (word : OpenWord w) :
    ∃ status, w.getLast? = some status ∧ status.isOpen = true := by
  cases word with
  | new => exact ⟨_, rfl, rfl⟩
  | persistent before => exact ⟨_, List.getLast?_concat, rfl⟩
  | regressed before => exact ⟨.regressed, by simp, rfl⟩

theorem openNewOnce {w : List LifecycleStatus} (word : OpenWord w) : w.count .new = 1 := by
  induction word with
  | new => rfl
  | persistent before ih => rw [List.count_append, ih]; rfl
  | regressed before ih => rw [List.count_append, ih]; rfl

theorem recordedNewOnce {w : List LifecycleStatus} (word : RecordedWord w) : w.count .new ≤ 1 := by
  cases word with
  | none => exact Nat.zero_le 1
  | opened word => exact (openNewOnce word).le
  | resolved word =>
    rw [List.count_append, openNewOnce word]
    exact Nat.le_refl 1

def RegressedAfterResolved (w : List LifecycleStatus) : Prop :=
  ∀ before after, w = before ++ .regressed :: after → before.getLast? = some .resolved

theorem regressedSnoc {w : List LifecycleStatus} {status : LifecycleStatus}
    (all : RegressedAfterResolved w)
    (last : status = .regressed → w.getLast? = some .resolved) :
    RegressedAfterResolved (w ++ [status]) := by
  intro before after same
  rcases List.eq_nil_or_concat after with rfl | ⟨after, final, rfl⟩
  · obtain ⟨rfl, here⟩ := List.append_inj' same rfl
    exact last (List.singleton_inj.mp here)
  · rw [List.concat_eq_append, ← List.cons_append, ← List.append_assoc] at same
    obtain ⟨rfl, -⟩ := List.append_inj' same rfl
    exact all before after rfl

theorem openRegressed {w : List LifecycleStatus} (word : OpenWord w) : RegressedAfterResolved w := by
  induction word with
  | new =>
    have none : RegressedAfterResolved [] := fun before after same => by simp at same
    exact regressedSnoc none fun wrong => by contradiction
  | persistent before ih => exact regressedSnoc ih fun wrong => by contradiction
  | regressed before ih =>
    have resolved := regressedSnoc ih fun wrong : LifecycleStatus.resolved = .regressed => by contradiction
    have regressed := regressedSnoc resolved fun _ : LifecycleStatus.regressed = .regressed =>
      List.getLast?_concat
    rwa [List.append_assoc] at regressed

theorem recordedRegressed {w : List LifecycleStatus} (word : RecordedWord w) :
    RegressedAfterResolved w := by
  cases word with
  | none => exact fun before after same => by simp at same
  | opened word => exact openRegressed word
  | resolved word => exact regressedSnoc (openRegressed word) fun wrong => by contradiction

end SentinelGpt
