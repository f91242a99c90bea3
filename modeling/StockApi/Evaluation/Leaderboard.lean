import StockApi.Evaluation.Origins

/-!
# The leaderboard is a sort of its evaluations

The ranking key contains the name, so that it tells the evaluations apart. The leaderboard depends on the
candidates and not on their order, and another candidate leaves the order of the others alone.
-/

namespace StockApi.Evaluation

open Checked Groups

section Leaderboard

variable {K : Type} [Field K] [LinearOrder K] {sqrt : K → K} {values : List K} {config : WalkForwardConfig}
  {candidates : List (BaselineCandidate K)} {board : BaselineLeaderboard K}

/-- The entries for evaluations. -/
def leaderboardOf (config : WalkForwardConfig) (evaluations : List (ModelEvaluation K)) : BaselineLeaderboard K where
  config := config
  entries := ((sortOn rankingKey evaluations).zipIdx 1).map fun e => ⟨e.2, e.1⟩

def BaselineLeaderboard.ranked (board : BaselineLeaderboard K) : List (ModelEvaluation K) :=
  board.entries.map LeaderboardEntry.evaluation

omit [Field K] in
theorem ranked_leaderboardOf (evaluations : List (ModelEvaluation K)) :
    (leaderboardOf config evaluations).ranked = sortOn rankingKey evaluations := by
  rw [BaselineLeaderboard.ranked, leaderboardOf, List.map_map]
  exact List.zipIdx_map_fst 1 _

theorem buildBaselineLeaderboard_eq_ok : buildBaselineLeaderboard sqrt values candidates config = .ok board ↔
    candidates ≠ [] ∧ (candidates.map BaselineCandidate.name).Nodup ∧
      ∃ evaluations, candidates.mapM (fun candidate => evaluateWalkForward sqrt values candidate config) =
          .ok evaluations ∧
        (evaluations.map ModelEvaluation.modelVersion).Nodup ∧ board = leaderboardOf config evaluations := by
  rw [buildBaselineLeaderboard, refuseIf_bind_eq_ok_iff, refuseIf_bind_eq_ok_iff, not_not]
  refine and_congr_right fun _ => and_congr_right fun _ => ?_
  rw [bind_eq_ok_iff]
  refine exists_congr fun evaluations => and_congr_right fun _ => ?_
  rw [refuseIf_bind_eq_ok_iff, not_not, pure_eq_ok, Except.ok.injEq]
  exact and_congr_right fun _ => eq_comm

/-! ## Order of the candidates -/

theorem names_of_evaluations {evaluations : List (ModelEvaluation K)}
    (h : candidates.mapM (fun candidate => evaluateWalkForward sqrt values candidate config) = .ok evaluations) :
    evaluations.map ModelEvaluation.candidateName = candidates.map BaselineCandidate.name := by
  rw [← List.forall₂_eq_eq_eq, List.forall₂_map_left_iff, List.forall₂_map_right_iff]
  exact (forall₂_of_mapM h).flip.imp fun _ _ hEvaluation => (evaluateWalkForward_eq_ok.mp hEvaluation).2.1

omit [Field K] [LinearOrder K] in
theorem name_of_rankingKey {a b : ModelEvaluation K} (h : rankingKey a = rankingKey b) :
    a.candidateName = b.candidateName := by
  simp only [rankingKey, EmbeddingLike.apply_eq_iff_eq, Prod.mk.injEq] at h
  exact h.2.2.2.1

omit [Field K] [LinearOrder K] in
/-- Evaluations of different names have different keys. -/
theorem rankingKey_nodup {evaluations : List (ModelEvaluation K)}
    (distinct : (evaluations.map ModelEvaluation.candidateName).Nodup) : (evaluations.map rankingKey).Nodup := by
  apply List.Nodup.map_on _ (List.Nodup.of_map _ distinct)
  intro a ha b hb hKey
  exact List.inj_on_of_nodup_map distinct ha hb (name_of_rankingKey hKey)

/-- The same candidates in another order give the same leaderboard. -/
theorem leaderboard_perm {others : List (BaselineCandidate K)} (perm : candidates.Perm others)
    (h : buildBaselineLeaderboard sqrt values candidates config = .ok board) :
    buildBaselineLeaderboard sqrt values others config = .ok board := by
  obtain ⟨hSome, hNames, evaluations, hEvaluations, hVersions, rfl⟩ := buildBaselineLeaderboard_eq_ok.mp h
  obtain ⟨evaluations', hEvaluations', hPerm⟩ := mapM_perm perm hEvaluations
  have hDistinct : (evaluations.map rankingKey).Nodup := by
    apply rankingKey_nodup
    rwa [names_of_evaluations hEvaluations]
  rw [buildBaselineLeaderboard_eq_ok]
  refine ⟨?_, (perm.map _).nodup_iff.mp hNames, evaluations', hEvaluations', (hPerm.map _).nodup_iff.mp hVersions, ?_⟩
  · rintro rfl
    exact hSome perm.eq_nil
  · have hSort : sortOn rankingKey evaluations = sortOn rankingKey evaluations' :=
      sortOn_congr hPerm fun a ha b hb hKey => List.inj_on_of_nodup_map hDistinct ha hb hKey
    rw [leaderboardOf, leaderboardOf, hSort]

/-- Sorting one more value keeps the order of the others. -/
theorem filter_sortOn {α κ : Type} [LinearOrder κ] {key : α → κ} {xs : List α} (distinct : (xs.map key).Nodup)
    (keep : α → Bool) : (sortOn key xs).filter keep = sortOn key (xs.filter keep) := by
  symm
  apply sortOn_eq_of_perm ((sortOn_perm xs).filter keep).symm
  exact (sortOn_pairwise distinct).filter keep

theorem leaderboard_insert {new : BaselineCandidate K} {evaluation : ModelEvaluation K}
    {others : List (BaselineCandidate K)} (perm : others.Perm (new :: candidates))
    (h : buildBaselineLeaderboard sqrt values candidates config = .ok board)
    (evaluated : evaluateWalkForward sqrt values new config = .ok evaluation)
    (newName : new.name ∉ candidates.map BaselineCandidate.name)
    (newVersion : evaluation.modelVersion ∉ board.ranked.map ModelEvaluation.modelVersion) :
    ∃ board', buildBaselineLeaderboard sqrt values others config = .ok board' ∧
      board'.ranked.Perm (evaluation :: board.ranked) ∧
      board'.ranked.filter (fun e => e.candidateName ≠ new.name) = board.ranked := by
  obtain ⟨hSome, hNames, evaluations, hEvaluations, hVersions, rfl⟩ := buildBaselineLeaderboard_eq_ok.mp h
  have hAll : (new :: candidates).mapM (fun candidate => evaluateWalkForward sqrt values candidate config) =
      .ok (evaluation :: evaluations) :=
    mapM_of_forall₂ (.cons evaluated (forall₂_of_mapM hEvaluations))
  have hEvaluationNames := names_of_evaluations hEvaluations
  have hName : evaluation.candidateName = new.name := (evaluateWalkForward_eq_ok.mp evaluated).2.1
  have hAllNames : ((new :: candidates).map BaselineCandidate.name).Nodup :=
    List.nodup_cons.mpr ⟨newName, hNames⟩
  rw [ranked_leaderboardOf] at newVersion
  have hNewVersion : evaluation.modelVersion ∉ evaluations.map ModelEvaluation.modelVersion := by
    intro hMem
    exact newVersion (((sortOn_perm evaluations).map _).mem_iff.mpr hMem)
  have hBoard : buildBaselineLeaderboard sqrt values (new :: candidates) config =
      .ok (leaderboardOf config (evaluation :: evaluations)) :=
    buildBaselineLeaderboard_eq_ok.mpr ⟨List.cons_ne_nil _ _, hAllNames, _, hAll,
      List.nodup_cons.mpr ⟨hNewVersion, hVersions⟩, rfl⟩
  refine ⟨_, leaderboard_perm perm.symm hBoard, ?_, ?_⟩
  · rw [ranked_leaderboardOf, ranked_leaderboardOf]
    exact (sortOn_perm _).trans ((sortOn_perm evaluations).symm.cons evaluation)
  · have hDistinct : ((evaluation :: evaluations).map rankingKey).Nodup := by
      apply rankingKey_nodup
      rwa [names_of_evaluations hAll]
    have hKeep : ∀ e ∈ evaluations, decide (e.candidateName ≠ new.name) = true := by
      intro e he
      rw [decide_eq_true_iff]
      intro hSame
      apply newName
      rw [← hSame, ← hEvaluationNames]
      exact List.mem_map_of_mem he
    have hFilter : (evaluation :: evaluations).filter (fun e => e.candidateName ≠ new.name) = evaluations := by
      rw [List.filter_cons_of_neg (by simp [hName])]
      exact List.filter_eq_self.mpr hKeep
    rw [ranked_leaderboardOf, ranked_leaderboardOf, filter_sortOn hDistinct, hFilter]

end Leaderboard

end StockApi.Evaluation
