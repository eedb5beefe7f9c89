import Powerline.Proofs.LinkDatabase.Additions

/-!
# Updating links

An update brings links into the table with their flags (`LinkTable.upsert`). When all of them are
different, one write goes out for each link whose flags differ and one for each link that is new,
and when all have what was wanted, none (`update_settled`). A new link that is given more than once
keeps the flags that are given first for it, so that an update is not the same as two updates with
its parts (`update_append_iff`).
-/

namespace Powerline

namespace LinkDatabase

variable {database : LinkDatabase} {world : World} {past : List Exchange} {copy : LinkCopy}
  {records : List LinkRecord}

theorem carryOut_adjustFlags_of_settled (settled : copy.table.Settled records) :
    (database.adjustFlags records).carryOut world past copy = ⟨.ok [], copy, []⟩ := by
  induction records with
  | nil => rfl
  | cons record rest ih =>
      rcases settled record List.mem_cons_self with ⟨old, found, same⟩
      have behind := ih fun other mem => settled other (List.mem_cons_of_mem record mem)
      rw [LinkTable.first?_eq, Option.bind_eq_some_iff] at found
      rcases found with ⟨slot, position, present⟩
      have unchanged : ¬ old.flags ≠ record.notLast.flags := not_not_intro same
      simp only [adjustFlags, Dialogue.carryOut_bind, Dialogue.carryOut_memory,
        Outcome.andThen_ok, id_notLast, position, present, if_neg unchanged, List.append_nil,
        Outcome.behind_nil]
      exact behind

end LinkDatabase

namespace Edit

variable {database : LinkDatabase} {world : World} {past : List Exchange} {copy : LinkCopy}
  {records : List LinkRecord}

theorem carryOut_update_of_settled
    (fresh : copy.isStale database.maxAge (world.now past) = false)
    (settled : copy.table.Settled records) :
    ((update records).work database).carryOut world past copy
      = ⟨.ok (), copy, [.clock (world.now past)]⟩ := by
  have kept : ¬ copy.table.size > copy.table.size := Nat.lt_irrefl _
  simp only [work, LinkDatabase.updateLinks, Dialogue.carryOut_bind,
    LinkDatabase.carryOut_refresh_of_fresh fresh, Outcome.andThen_ok,
    LinkDatabase.carryOut_adjustFlags_of_settled settled, LinkDatabase.insertMissing,
    LinkDatabase.closeGrown, Dialogue.carryOut_memory, Dialogue.carryOut_pure, if_neg kept,
    Outcome.behind_nil]
  rfl

/-- An update on a fresh copy with links that are all different. Each of them has the wanted flags
afterwards, without the last-record mark, and its own data if it is new to the table, else the old
data. The new ones lie one behind another in the slots that were free and, when there are no more,
behind the old end. One write goes out for each link whose flags differ and one for each that is
new, and a terminator behind the end if the table grew. -/
theorem update_upserts (database : LinkDatabase) (records : List LinkRecord) (world : World)
    (past : List Exchange) (copy : LinkCopy)
    (inUse : ∀ record ∈ records, record.flags.inUse = true)
    (distinct : (records.map LinkRecord.id).Nodup)
    (fresh : copy.isStale database.maxAge (world.now past) = false)
    (acknowledged :
      (((update records).work database).carryOut world past copy).Acknowledged
        database.connection) :
    let run := ((update records).work database).carryOut world past copy
    let table := copy.table
    let final := run.memory.table
    let differing := records.filter fun record =>
      (table.first? record.id).any fun old => old.flags ≠ record.notLast.flags
    let new := records.filter fun record => (table.first? record.id).isNone
    let free := (List.range table.size).filter table.isFree
    let slots := free.take new.length ++ List.range' table.size (new.length - free.length)
    run.result = .ok () ∧
      (∀ record ∈ records, final.first? record.id = some
        (match table.first? record.id with
          | some old => { old with flags := record.flags.notLast }
          | none => { record with flags := record.flags.notLast })) ∧
      slots.length = new.length ∧ slots.Pairwise (· < ·) ∧
      (∀ place ∈ slots.zip new, final.records[place.1]? = some place.2.notLast) ∧
      final.size = table.size + (new.length - free.length) ∧
      (records.filterMap table.rewrite?).length = differing.length ∧
      run.packets = database.writePackets (records.filterMap table.rewrite?
        ++ slots.zip (new.map LinkRecord.notLast)
        ++ if free.length < new.length then [(final.size, .terminator)] else []) := by
  intro run table final differing new free slots
  have missing : table.missing records = new.map LinkRecord.notLast := rfl
  have vacant : table.vacancies 0 new.length = slots := table.vacancies_zero new.length
  have same := table.ids_reflagAll records
  rcases (table.reflagAll records).storeAll_additions new with ⟨placed, _, grown, closing⟩
  rcases carryOut_of_acknowledged (fun table => table.updatePlan records) rfl fresh acknowledged
    (fun _ _ => (wrote_update records).imp fun _ _ _ _ planned => planned.1) with
    ⟨succeeded, memory, packets⟩
  have upserted : final = table.upsert records := by
    change run.memory.table = _
    rw [memory, LinkTable.storeAll_updatePlan]
  have stored : final
      = (table.reflagAll records).storeAll (slots.zip (new.map LinkRecord.notLast)) := by
    rw [upserted, LinkTable.upsert_eq_storeAll distinct inUse, missing, List.length_map, vacant]
  rw [LinkTable.vacancies_congr same, vacant, ← stored] at placed grown closing
  rw [LinkTable.size_congr same, LinkTable.freeFrom_eq_of_ids same, LinkTable.freeFrom_zero]
    at grown closing
  refine ⟨succeeded, ?_, ?_, ?_, placed, grown, ?_, ?_⟩
  · intro record mem
    rw [upserted]
    exact LinkTable.first?_upsert_of_nodup distinct mem (inUse record mem) table
  · rw [← vacant]
    exact table.length_vacancies 0 new.length
  · rw [← vacant]
    exact table.pairwise_vacancies 0 new.length
  · simp only [List.length_filterMap_eq_countP, LinkTable.isSome_rewrite?,
      List.countP_eq_length_filter]
    rfl
  · rw [LinkTable.updatePlan_of_nodup distinct inUse, missing, List.length_map, vacant,
      ← upserted, closing] at packets
    exact packets

open LinkDatabase

/-- Of four links that are wanted, the first has other flags, the second takes the free slot, the
third is there already, with other data, and the fourth makes the table longer. -/
theorem update_upserts_sample :
    let records := [sampleRecord 1, { sampleRecord 5 with flags := (sampleRecord 5).flags.asLast },
      { sampleRecord 2 with data1 := 9 }, sampleRecord 6]
    let run := ((update records).work sample).carryOut (sampleWorld []) [] sampleCopy
    sampleCopy.isStale sample.maxAge ((sampleWorld []).now []) = false ∧
      (∀ record ∈ records, record.flags.inUse = true) ∧ (records.map LinkRecord.id).Nodup ∧
      run.Acknowledged sample.connection ∧ run.result = .ok () ∧
      run.memory.table.records = [sampleRecord 1, sampleRecord 2, sampleRecord 5, sampleRecord 4,
        sampleRecord 6] ∧
      run.packets = sample.writePackets [(0, sampleRecord 1), (2, sampleRecord 5),
        (4, sampleRecord 6), (5, .terminator)] := by
  intro records run
  have fresh : sampleCopy.isStale sample.maxAge ((sampleWorld []).now []) = false := rfl
  have inUse : ∀ record ∈ records, record.flags.inUse = true := by decide
  have distinct : (records.map LinkRecord.id).Nodup := by decide
  have acknowledged : run.Acknowledged sample.connection := by decide
  rcases update_upserts sample records (sampleWorld []) [] sampleCopy inUse distinct fresh
    acknowledged with ⟨succeeded, _, _, _, _, _, _, packets⟩
  refine ⟨fresh, inUse, distinct, acknowledged, succeeded, by decide, packets.trans ?_⟩
  exact congrArg sample.writePackets (by decide)

theorem table_update
    (succeeded : (((update records).work database).carryOut world past copy).result = .ok ()) :
    (((update records).work database).carryOut world past copy).memory.table
      = (database.refresh.carryOut world past copy).memory.table.upsert records := by
  have made := carryOut_of_planned (fun table => table.updatePlan records) rfl succeeded
    fun _ _ => (wrote_update records).imp fun _ _ _ _ planned => planned.1
  rw [made.1, LinkTable.storeAll_updatePlan]

/-- After an update that has succeeded, each of its links is in the table with the wanted flags, and
nothing is left to do for another update with the same links, or with some of them in any order. If
the copy is still fresh then, the other one succeeds, nothing goes out, and the copy stays as it
is. -/
theorem update_settled (database : LinkDatabase) (records again : List LinkRecord)
    (world laterWorld : World) (past laterPast : List Exchange) (copy : LinkCopy)
    (inUse : ∀ record ∈ records, record.flags.inUse = true)
    (consistent : ∀ first ∈ records, ∀ second ∈ records, first.id = second.id →
      first.flags.notLast = second.flags.notLast)
    (repeated : again ⊆ records) :
    let first := ((update records).work database).carryOut world past copy
    let second := ((update again).work database).carryOut laterWorld laterPast first.memory
    first.result = .ok () →
      first.memory.isStale database.maxAge (laterWorld.now laterPast) = false →
        first.memory.table.Settled records ∧
          second.result = .ok () ∧ second.packets = [] ∧ second.memory = first.memory := by
  intro first second succeeded fresh
  have settled : first.memory.table.Settled records := by
    rw [table_update succeeded]
    exact LinkTable.settled_upsert _ inUse consistent
  have quiet : second = ⟨.ok (), first.memory, [.clock (laterWorld.now laterPast)]⟩ :=
    carryOut_update_of_settled fresh fun record mem => settled record (repeated mem)
  rw [quiet]
  exact ⟨settled, rfl, rfl, rfl⟩

/-- The links of the sample, one of them given twice, with and without the last-record mark. Then
the same ones the other way around. -/
theorem update_settled_sample :
    let records := [sampleRecord 1, { sampleRecord 5 with flags := (sampleRecord 5).flags.asLast },
      sampleRecord 5, sampleRecord 2]
    let first := ((update records).work sample).carryOut (sampleWorld []) [] sampleCopy
    let second := ((update records.reverse).work sample).carryOut (sampleWorld []) first.exchanges
      first.memory
    (∀ record ∈ records, record.flags.inUse = true) ∧
      (∀ first ∈ records, ∀ second ∈ records, first.id = second.id →
        first.flags.notLast = second.flags.notLast) ∧
      records.reverse ⊆ records ∧ first.result = .ok () ∧
      first.memory.isStale sample.maxAge ((sampleWorld []).now first.exchanges) = false ∧
      first.memory.table.records = [sampleRecord 1, sampleRecord 2, sampleRecord 5,
        sampleRecord 4] ∧
      first.memory.table.Settled records ∧
      second.result = .ok () ∧ second.packets = [] ∧ second.memory = first.memory := by
  intro records first second
  have inUse : ∀ record ∈ records, record.flags.inUse = true := by decide
  have consistent : ∀ first ∈ records, ∀ second ∈ records, first.id = second.id →
      first.flags.notLast = second.flags.notLast := by decide
  have repeated : records.reverse ⊆ records := fun _ mem => List.mem_reverse.mp mem
  have succeeded : first.result = .ok () := rfl
  have fresh : first.memory.isStale sample.maxAge ((sampleWorld []).now first.exchanges) = false :=
    rfl
  exact ⟨inUse, consistent, repeated, succeeded, fresh, by decide,
    update_settled sample records records.reverse (sampleWorld []) (sampleWorld []) []
      first.exchanges sampleCopy inUse consistent repeated succeeded fresh⟩

theorem table_update_of_acknowledged
    (fresh : copy.isStale database.maxAge (world.now past) = false)
    (acknowledged :
      (((update records).work database).carryOut world past copy).Acknowledged
        database.connection) :
    (((update records).work database).carryOut world past copy).result = .ok () ∧
      (((update records).work database).carryOut world past copy).memory.table
        = copy.table.upsert records := by
  have fits : (update records).Fits copy.table := trivial
  have succeeded := result_of_acknowledged fits acknowledged
  refine ⟨succeeded, ?_⟩
  rw [table_update succeeded, LinkDatabase.carryOut_refresh_of_fresh fresh]

/-- A link that is in the table gets the flags that are given last for it, a new one those that are
given first. So an update with two lists, one behind the other, and two updates with one list each
lead to the same links in the same slots, and those that came in with the first list and are given
again in the second one have the flags of the one or of the other. The tables are the same exactly
if these flags are. -/
theorem update_append_iff (database : LinkDatabase) (former latter : List LinkRecord)
    (world formerWorld latterWorld : World) (past formerPast latterPast : List Exchange)
    (copy : LinkCopy) (inUse : ∀ record ∈ former ++ latter, record.flags.inUse = true) :
    let whole := ((update (former ++ latter)).work database).carryOut world past copy
    let first := ((update former).work database).carryOut formerWorld formerPast copy
    let second := ((update latter).work database).carryOut latterWorld latterPast first.memory
    copy.isStale database.maxAge (world.now past) = false →
      copy.isStale database.maxAge (formerWorld.now formerPast) = false →
      first.memory.isStale database.maxAge (latterWorld.now latterPast) = false →
      whole.Acknowledged database.connection → first.Acknowledged database.connection →
      second.Acknowledged database.connection →
      whole.result = .ok () ∧ first.result = .ok () ∧ second.result = .ok () ∧
      (∀ record ∈ former ++ latter, whole.memory.table.first? record.id =
        match copy.table.first? record.id with
        | some old => (lastGiven (former ++ latter) record.id).map old.reflagged
        | none => (firstGiven (former ++ latter) record.id).map LinkRecord.notLast) ∧
      second.memory.table
        = whole.memory.table.reflagAll (copy.table.recurring former latter) ∧
      (whole.memory.table = second.memory.table ↔
        ∀ id early late, copy.table.first? id = none → firstGiven former id = some early →
          lastGiven latter id = some late → early.flags.notLast = late.flags.notLast) := by
  intro whole first second fresh formerFresh latterFresh acknowledged formerAcknowledged
    latterAcknowledged
  rcases table_update_of_acknowledged fresh acknowledged with ⟨succeeded, upserted⟩
  rcases table_update_of_acknowledged formerFresh formerAcknowledged with
    ⟨formerSucceeded, formerUpserted⟩
  rcases table_update_of_acknowledged latterFresh latterAcknowledged with
    ⟨latterSucceeded, latterUpserted⟩
  change whole.memory.table = _ at upserted
  change second.memory.table = _ at latterUpserted
  rw [formerUpserted] at latterUpserted
  have latterInUse : ∀ record ∈ latter, record.id.inUse = true :=
    fun record mem => inUse record (List.mem_append_right former mem)
  refine ⟨succeeded, formerSucceeded, latterSucceeded, ?_, ?_, ?_⟩
  · intro record mem
    rcases LinkTable.exists_lastGiven mem with ⟨last, _, _, given⟩
    rw [upserted, LinkTable.first?_upsert copy.table _ (inUse record mem), given]
    cases copy.table.first? record.id with
    | some old => rfl
    | none => rfl
  · rw [latterUpserted, upserted]
    exact LinkTable.upsert_upsert copy.table latterInUse
  · rw [latterUpserted, upserted]
    exact LinkTable.upsert_append_eq_iff latterInUse

/-- The flags of a link that is in the table differ between the lists, those of a new one in the
last-record mark only. -/
theorem update_append_iff_sample :
    let changed := { sampleRecord 1 with flags := ⟨0xea⟩ }
    let former := [sampleRecord 1, sampleRecord 5]
    let latter := [{ sampleRecord 5 with flags := (sampleRecord 5).flags.asLast }, changed]
    let whole := ((update (former ++ latter)).work sample).carryOut (sampleWorld []) [] sampleCopy
    let first := ((update former).work sample).carryOut (sampleWorld []) [] sampleCopy
    let second := ((update latter).work sample).carryOut (sampleWorld []) first.exchanges
      first.memory
    (∀ record ∈ former ++ latter, record.flags.inUse = true) ∧
      sampleCopy.isStale sample.maxAge ((sampleWorld []).now []) = false ∧
      first.memory.isStale sample.maxAge ((sampleWorld []).now first.exchanges) = false ∧
      whole.Acknowledged sample.connection ∧ first.Acknowledged sample.connection ∧
      second.Acknowledged sample.connection ∧
      whole.memory.table.records = [changed, sampleRecord 2, sampleRecord 5, sampleRecord 4] ∧
      second.memory.table
        = whole.memory.table.reflagAll (sampleCopy.table.recurring former latter) ∧
      whole.memory.table = second.memory.table := by
  intro changed former latter whole first second
  have inUse : ∀ record ∈ former ++ latter, record.flags.inUse = true := by decide
  have fresh : sampleCopy.isStale sample.maxAge ((sampleWorld []).now []) = false := rfl
  have freshThen : first.memory.isStale sample.maxAge ((sampleWorld []).now first.exchanges)
      = false := rfl
  have acknowledged : whole.Acknowledged sample.connection := by decide
  have formerAcknowledged : first.Acknowledged sample.connection := by decide
  have latterAcknowledged : second.Acknowledged sample.connection := by decide
  rcases update_append_iff sample former latter (sampleWorld []) (sampleWorld []) (sampleWorld [])
    [] [] first.exchanges sampleCopy inUse fresh fresh freshThen acknowledged formerAcknowledged
    latterAcknowledged with ⟨_, _, _, _, tables, _⟩
  exact ⟨inUse, fresh, freshThen, acknowledged, formerAcknowledged, latterAcknowledged, by decide,
    tables, by decide⟩

/-- A link that is new to an empty table is given twice. One update drops the flags that are given
later, which two updates do not, and the same update once more changes the table again. -/
theorem later_flags_dropped :
    let changed := { sampleRecord 1 with flags := ⟨0xea⟩ }
    let copy : LinkCopy := ⟨{}, some 0⟩
    let whole := ((update [sampleRecord 1, changed]).work sample).carryOut (sampleWorld []) [] copy
    let first := ((update [sampleRecord 1]).work sample).carryOut (sampleWorld []) [] copy
    let second := ((update [changed]).work sample).carryOut (sampleWorld []) first.exchanges
      first.memory
    let again := ((update [sampleRecord 1, changed]).work sample).carryOut (sampleWorld [])
      whole.exchanges whole.memory
    (∀ record ∈ [sampleRecord 1, changed], record.flags.inUse = true) ∧
      copy.isStale sample.maxAge ((sampleWorld []).now []) = false ∧
      first.memory.isStale sample.maxAge ((sampleWorld []).now first.exchanges) = false ∧
      whole.memory.isStale sample.maxAge ((sampleWorld []).now whole.exchanges) = false ∧
      whole.Acknowledged sample.connection ∧ first.Acknowledged sample.connection ∧
      second.Acknowledged sample.connection ∧ again.Acknowledged sample.connection ∧
      whole.memory.table.records = [sampleRecord 1] ∧
      second.memory.table.records = [changed] ∧ again.memory.table.records = [changed] ∧
      whole.memory.table ≠ second.memory.table := by
  decide

end Edit

end Powerline
