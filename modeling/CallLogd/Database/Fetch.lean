/-
The CELs that a generation fetches.

A request selects some channels, and returns the CELs of all the linkedids that
have one of them.  It does not go on to the channels of these linkedids, so it
returns whole calls only if the linkedids of a call all have a selected channel.
-/
import CallLogd.Generation.Grouping
import CallLogd.Manager

namespace CallLogd

open Sequences

/-- The events of the table. -/
def Database.events (db : Database) : List CEL := db.cels.map (·.toCEL)

/-- Rows that are fetched together with all the CELs that are correlated to them. -/
def ClosedUnderCorrelation (db : Database) (fetched : List CELRow) : Prop :=
  ∀ row ∈ fetched, ∀ row' ∈ db.cels,
    LinkedidsConnected db.events row.linkedid row'.linkedid → row' ∈ fetched

/-- A linkedid has the channel of a row of the request. -/
def HasChannelOf (db : Database) (base : List CELRow) (linkedid : String) : Prop :=
  ∃ row ∈ db.cels, row.linkedid = linkedid ∧ ∃ cel ∈ base, cel.uniqueid = row.uniqueid

variable {db : Database} {base : List CELRow} {row : CELRow} {l a b : String}

lemma shareUniqueid_events :
    ShareUniqueid db.events a b ↔
      ∃ c ∈ db.cels, ∃ d ∈ db.cels, c.linkedid = a ∧ d.linkedid = b ∧
        c.uniqueid = d.uniqueid := by
  simp [ShareUniqueid, Database.events]

/-- A request returns the rows of the linkedids that have one of its channels. -/
lemma mem_correlatedCelsByUniqueid :
    row ∈ CELDAO.correlatedCelsByUniqueid db.cels base ↔
      row ∈ db.cels ∧ HasChannelOf db base row.linkedid := by
  have hlinkedid : row.linkedid ∈ CELDAO.correlatedLinkedids db.cels
      (base.map (·.uniqueid)).toFinset ↔ HasChannelOf db base row.linkedid := by
    simp only [CELDAO.correlatedLinkedids, List.mem_toFinset, List.mem_map, List.mem_filter,
      decide_eq_true_eq, HasChannelOf]
    exact exists_congr fun r => ⟨fun h => ⟨h.1.1, h.2, h.1.2⟩, fun h => ⟨⟨h.1, h.2.2⟩, h.2.1⟩⟩
  rw [CELDAO.correlatedCelsByUniqueid, mem_sortedBy, List.mem_filter, decide_eq_true_eq,
    hlinkedid]

/-- The requested linkedid has the channels of its own rows. -/
lemma hasChannelOf_linkedid :
    HasChannelOf db (db.cels.filter fun cel => cel.linkedid = l) a ↔
      ShareUniqueid db.events l a := by
  rw [shareUniqueid_events]
  simp only [HasChannelOf, List.mem_filter, decide_eq_true_eq]
  constructor
  · rintro ⟨row, hrow, hra, cel, ⟨hcel, hcl⟩, hu⟩
    exact ⟨cel, hcel, row, hrow, hcl, hra, hu⟩
  · rintro ⟨cel, hcel, row, hrow, hcl, hra, hu⟩
    exact ⟨row, hrow, hra, cel, ⟨hcel, hcl⟩, hu⟩

lemma mem_findFromLinkedId :
    row ∈ CELDAO.findFromLinkedId l db ↔
      row ∈ db.cels ∧ ShareUniqueid db.events l row.linkedid := by
  rw [CELDAO.findFromLinkedId, mem_correlatedCelsByUniqueid, hasChannelOf_linkedid]

lemma ShareUniqueid.refl_left {cels : List CEL} (h : ShareUniqueid cels a b) :
    ShareUniqueid cels a a := by
  obtain ⟨c, hc, -, -, hca, -, -⟩ := h
  exact ⟨c, hc, c, hc, hca, hca, rfl⟩

lemma ShareUniqueid.exists_row (h : ShareUniqueid db.events a b) :
    ∃ row ∈ db.cels, row.linkedid = b := by
  obtain ⟨c, -, d, hd, -, hdb, -⟩ := shareUniqueid_events.1 h
  exact ⟨d, hd, hdb⟩

/-- What is fetched for a linkedid is its whole call if and only if the linkedids
that are two steps away are one step away. -/
lemma findFromLinkedId_eq_call_iff :
    (∀ row, row ∈ CELDAO.findFromLinkedId l db ↔
        row ∈ db.cels ∧ LinkedidsConnected db.events l row.linkedid) ↔
      ∀ a b, ShareUniqueid db.events l a → ShareUniqueid db.events a b →
        ShareUniqueid db.events l b := by
  constructor
  · intro h a b hla hab
    obtain ⟨row, hrow, rfl⟩ := hab.exists_row
    have hconn : LinkedidsConnected db.events l row.linkedid := .tail (.single hla) hab
    exact (mem_findFromLinkedId.1 ((h row).2 ⟨hrow, hconn⟩)).2
  · intro h row
    rw [mem_findFromLinkedId]
    refine and_congr_right fun hrow => ⟨.single, fun hconn => ?_⟩
    -- an empty chain is a row of the requested linkedid itself
    rcases hconn.cases_head with rfl | ⟨a, hla, -⟩
    · exact shareUniqueid_events.2 ⟨row, hrow, row, hrow, rfl, rfl, rfl⟩
    · exact hconn.mem_of_closed hla.refl_left h

/-- What a request returns is closed under correlation if and only if the
neighbours of the linkedids that it returns have one of its channels. -/
lemma closedUnderCorrelation_iff :
    ClosedUnderCorrelation db (CELDAO.correlatedCelsByUniqueid db.cels base) ↔
      ∀ a b, HasChannelOf db base a → ShareUniqueid db.events a b → HasChannelOf db base b := by
  constructor
  · intro h a b ha hab
    obtain ⟨row', hrow', rfl⟩ := hab.exists_row
    obtain ⟨row, hrow, rfl, -⟩ := id ha
    exact (mem_correlatedCelsByUniqueid.1
      (h row (mem_correlatedCelsByUniqueid.2 ⟨hrow, ha⟩) row' hrow' (.single hab))).2
  · intro h row hrow row' hrow' hconn
    refine mem_correlatedCelsByUniqueid.2 ⟨hrow', ?_⟩
    have ha := (mem_correlatedCelsByUniqueid.1 hrow).2
    exact hconn.mem_of_closed ha h

/-- Fetching agrees with the transitive correlation of the generator if and only
if one step from the selected channels reaches all the linkedids of a call. -/
theorem fetch_closure_iff (db : Database) :
    (∀ linkedId,
      (∀ row, row ∈ CELDAO.findFromLinkedId linkedId db ↔
          row ∈ db.cels ∧ LinkedidsConnected db.events linkedId row.linkedid) ↔
        ∀ a b, ShareUniqueid db.events linkedId a → ShareUniqueid db.events a b →
          ShareUniqueid db.events linkedId b) ∧
    ∀ limit older,
      ClosedUnderCorrelation db (CELDAO.findLastUnprocessed limit older db) ↔
        ∀ a b, HasChannelOf db (CELDAO.lastUnprocessed db.cels limit older) a →
          ShareUniqueid db.events a b →
          HasChannelOf db (CELDAO.lastUnprocessed db.cels limit older) b :=
  ⟨fun _ => findFromLinkedId_eq_call_iff, fun _ _ => closedUnderCorrelation_iff⟩

/-- The linkedid `1.2` shares a channel with `1.1` and another one with `1.3`. -/
def chainedDatabase : Database :=
  { Database.empty with
    cels :=
      [{ id := 1, eventtype := .chanStart, eventtime := 0, uniqueid := "1.1", linkedid := "1.1" },
       { id := 2, eventtype := .bridgeEnter, eventtime := 1, uniqueid := "1.1", linkedid := "1.2" },
       { id := 3, eventtype := .chanStart, eventtime := 2, uniqueid := "1.2", linkedid := "1.2" },
       { id := 4, eventtype := .bridgeEnter, eventtime := 3, uniqueid := "1.2", linkedid := "1.3" }]
    cels_nodup := by decide }

/-- The two ends of the chain are never fetched together. -/
theorem chainedDatabase_not_fetched :
    (¬ ∀ row, row ∈ CELDAO.findFromLinkedId "1.1" chainedDatabase ↔
      row ∈ chainedDatabase.cels ∧
        LinkedidsConnected chainedDatabase.events "1.1" row.linkedid) ∧
    ¬ ClosedUnderCorrelation chainedDatabase
      (CELDAO.findLastUnprocessed (some 1) none chainedDatabase) := by
  constructor
  · intro h
    have hconn : LinkedidsConnected chainedDatabase.events "1.1" "1.3" :=
      .tail (.single (by decide : ShareUniqueid _ "1.1" "1.2"))
        (by decide : ShareUniqueid _ "1.2" "1.3")
    exact absurd ((h chainedDatabase.cels[3]).2 ⟨by decide, hconn⟩) (by decide)
  · intro h
    have hconn : LinkedidsConnected chainedDatabase.events "1.3" "1.1" :=
      .tail (.single (by decide : ShareUniqueid _ "1.3" "1.2"))
        (by decide : ShareUniqueid _ "1.2" "1.1")
    exact absurd (h chainedDatabase.cels[3] (by decide) chainedDatabase.cels[0] (by decide) hconn)
      (by decide)

end CallLogd
