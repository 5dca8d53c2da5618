import Countersign.Proposal.Snapshot
import Mathlib

/-! A roster lists its addresses in ascending order, each once, so that its length counts them. -/

namespace Countersign.Roster

theorem ascending_insert (a : String) {r : Roster} (hr : r.Pairwise (· < ·)) :
    (insert a r).Pairwise (· < ·) := by
  induction r with
  | nil => simp [insert]
  | cons b rest ih =>
    obtain ⟨hb, hrest⟩ := List.pairwise_cons.1 hr
    rw [insert]
    split
    · next hlt =>
      refine List.pairwise_cons.2 ⟨fun c hc => ?_, hr⟩
      rcases List.mem_cons.1 hc with rfl | hc
      · exact hlt
      · exact hlt.trans (hb c hc)
    · next hge =>
      split
      · exact hr
      · next hne =>
        refine List.pairwise_cons.2 ⟨fun c hc => ?_, ih hrest⟩
        rcases mem_insert.1 hc with rfl | hc
        · exact lt_of_le_of_ne (not_lt.1 hge) (Ne.symm hne)
        · exact hb c hc

theorem ascending_ofList (addresses : List String) : (ofList addresses).Pairwise (· < ·) := by
  induction addresses with
  | nil => exact .nil
  | cons a rest ih => exact ascending_insert a ih

theorem nodup_ofList (addresses : List String) : (ofList addresses).Nodup :=
  (ascending_ofList addresses).imp fun h => h.ne

end Countersign.Roster
