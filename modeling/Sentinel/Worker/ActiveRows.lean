import Sentinel.Worker.SelectorHistory
import Sentinel.Worker.SelectorMachine

/-!
# One active row for each pair

The table has no constraint that keeps a second active row out. A save relies on its own
earlier read, and two saves of one pair may both read before either commits.

* `one_active_row` — while every commit finds the rows its save has read, a pair has at most one
  active row and no two rows with one version
* `stale_commit_breaks` — any other commit leaves two active rows behind
* `two_first_saves` — two first saves of one field, after which no lookup works any more
-/

namespace Sentinel

open Lib

/-- What the repository is to maintain in the table. -/
structure ActiveRowsOk (s : SelectorStore) : Prop where
  one : ∀ domain fieldName, (s.activeRows domain fieldName).length ≤ 1
  versions : ∀ domain fieldName, ((s.rowsOf domain fieldName).map (·.version)).Nodup
  lookup : ∀ domain fieldName, ∃ r, scalarOneOrNone (s.activeRows domain fieldName) = .ok r

/-- A commit is up to date: the active rows of its pair are those the save has read. -/
def UpToDate (s : SelectorStore) (write : SelectorWrite) : Prop :=
  s.activeRows write.selector.domain write.selector.fieldName = write.previous.toList

instance (s : SelectorStore) (write : SelectorWrite) : Decidable (UpToDate s write) :=
  inferInstanceAs (Decidable (_ = _))

/-- Every commit of the run is up to date. -/
def commitsUpToDate : SelectorGuard
  | c, .call _ (.commit write) _, _ => UpToDate c.state write
  | _, _, _ => True

theorem historyRows_versions_nodup {domain fieldName : String}
    (l : List (String × SelectorSource)) :
    ((historyRows domain fieldName l).map (·.version)).Nodup := by
  have hver : (historyRows domain fieldName l).map (·.version) =
      (l.zipIdx.map Prod.snd).map fun i : Nat => (i : Int) + 1 := by
    unfold historyRows
    rw [List.map_map, List.map_map]
    rfl
  rw [hver, List.zipIdx_map_snd]
  refine List.Nodup.map (fun i j hij => ?_) List.nodup_range'
  have hcast : (i : Int) + 1 = j + 1 := hij
  omega

theorem Represents.activeRowsOk {s : SelectorStore} {H : SelectorHistory} (h : Represents s H) :
    ActiveRowsOk s := by
  refine ⟨fun d f => ?_, fun d f => ?_, h.previous⟩
  · rcases h.lookup d f with ⟨hnil, -⟩ | ⟨m, x, hm, -, -⟩
    · simp [hnil]
    · simp [hm]
  · have hver : (s.rowsOf d f).map (·.version) =
        ((s.rowsOf d f).map SelectorModel.content).map (·.version) := by
      rw [List.map_map]
      rfl
    rw [hver, h.rows]
    exact historyRows_versions_nodup _

theorem UpToDate.represents {s : SelectorStore} {H : SelectorHistory} {write : SelectorWrite}
    (hup : UpToDate s write) (h : Represents s H) : ∃ H', Represents (s.commit write) H' := by
  have hread : scalarOneOrNone (s.activeRows write.selector.domain write.selector.fieldName) =
      .ok write.previous := by
    rw [hup]
    cases write.previous <;> rfl
  exact ⟨_, h.commit hread⟩

/--
**At most one active row.** In every run whose commits are all up to date, every state reached
has at most one active row for each pair and no version twice, and every lookup finds its way.
-/
theorem one_active_row {X : SelectorSetting} {c : SelectorPool}
    (h : (selectorMachine X).Steps commitsUpToDate selectorInitial c) : ActiveRowsOk c.state := by
  have hrep : ∃ H, Represents c.state H := by
    refine rows_induct (P := fun s => ∃ H, Represents s H) ?_ ?_ h ⟨_, represents_empty⟩
    · rintro s s' hr ⟨H, hH⟩
      exact ⟨H, hH.of_rows hr⟩
    · rintro c i write r s' procs' ⟨H, hH⟩ hg
      exact UpToDate.represents hg hH
  obtain ⟨H, hH⟩ := hrep
  exact hH.activeRowsOk

def firstSave (selectorValue : String) : Selector :=
  ⟨"shop.test", "title", selectorValue, .manual, 1⟩

/-- One save after the other: each commit is up to date. -/
theorem one_active_row_in_turn : ActiveRowsOk
    (Machine.play (fun _ => storeStep) [.spawn (.writer 0) (saveSelector (firstSave "h1")),
      .turn (.writer 0) 4, .spawn (.writer 1) (saveSelector (firstSave "h2")),
      .turn (.writer 1) 4] selectorInitial).state :=
  one_active_row (X := anySelectorUse) (Machine.Steps.play (fun _ _ _ => rfl) _ _
    ⟨⟨⟨rfl, .writer 0 trivial⟩, trivial⟩, ⟨trivial, trivial, rfl, trivial, trivial⟩,
      ⟨⟨rfl, .writer 1 trivial⟩, trivial⟩, ⟨trivial, trivial, rfl, trivial, trivial⟩, trivial⟩)

/-- A commit that does not take the active flag from the active row leaves two of them. -/
theorem stale_commit_breaks {s : SelectorStore} {write : SelectorWrite} {m : SelectorModel}
    (hm : m ∈ s.activeRows write.selector.domain write.selector.fieldName)
    (hstale : write.previous.any (·.id == m.id) = false) :
    1 < ((s.commit write).activeRows write.selector.domain write.selector.fieldName).length := by
  rw [SelectorStore.activeRows_eq, List.mem_filter] at hm
  rw [SelectorStore.activeRows_eq, SelectorStore.rowsOf_commit, if_pos rfl, List.filter_append,
    List.length_append]
  have hold : m ∈ ((s.rowsOf write.selector.domain write.selector.fieldName).map
      (SelectorStore.deactivate write.previous)).filter (·.isActive) := by
    refine List.mem_filter.mpr ⟨List.mem_map.mpr ⟨m, hm.1, ?_⟩, hm.2⟩
    unfold SelectorStore.deactivate
    rw [hstale]
    rfl
  have hpos := List.length_pos_of_mem hold
  have hnew : ([write.newModel (s.rows.length + 1)].filter (·.isActive)).length = 1 := rfl
  omega

/-! ## two first saves -/

/-- Both saves read before either of them commits. -/
def twoFirstSaves : List (Machine.Move SelectorPort PyError SelectorRole SelectorStore) :=
  [.spawn (.writer 0) (saveSelector (firstSave "h1")),
    .spawn (.writer 1) (saveSelector (firstSave "h2")),
    .turn (.writer 0) 1, .turn (.writer 1) 1, .turn (.writer 0) 3, .turn (.writer 1) 3]

/-- Two saves of a new field run side by side: two rows are active, both with version 1, and the
lookup raises. -/
theorem two_first_saves : ∃ c : SelectorPool,
    (selectorMachine anySelectorUse).Steps Machine.anyStep selectorInitial c ∧
      ((c.state.activeRows "shop.test" "title").map fun r => (r.selectorValue, r.version)) =
        [("h1", 1), ("h2", 1)] ∧
      scalarOneOrNone (c.state.activeRows "shop.test" "title") = .error .multipleResultsFound := by
  refine ⟨_, Machine.Steps.play (h := fun _ => storeStep) (fun _ _ _ => rfl) twoFirstSaves
    selectorInitial ?_, rfl, rfl⟩
  exact ⟨⟨⟨rfl, .writer 0 trivial⟩, trivial⟩, ⟨⟨rfl, .writer 1 trivial⟩, trivial⟩,
    Machine.turnAllowed_anyStep _ _ _, Machine.turnAllowed_anyStep _ _ _,
    Machine.turnAllowed_anyStep _ _ _, Machine.turnAllowed_anyStep _ _ _, trivial⟩

end Sentinel
