import OpenPool.Store.ProofCorrectness
import OpenPool.Store.PublicReads
import OpenPool.Store.Terms

/-! # The catalogue of raffles

The public list, the list of an organizer and the page of one raffle are three views of the same
rows. -/

namespace OpenPool

open Fallible

/-! ## Rows -/

/-- The offer of a raffle with this split. -/
structure PublicRaffle.Shows (raffle : RaffleRow) (split : PayoutSplitRow) (item : PublicRaffle) :
    Prop where
  id : item.id = raffle.id
  name : item.name = raffle.name
  entryPriceSats : raffle.entryPriceSats = item.entryPriceSats.asU64.toNat
  startTime : item.startTime = ofTimestamp raffle.startTime
  endTime : item.endTime = ofTimestamp raffle.endTime
  status : item.status = raffle.status
  totalPoolSats : raffle.totalPoolSats = item.totalPoolSats.asU64.toNat
  totalTickets : raffle.totalTickets = item.totalTickets.toNat
  winnerBps : item.winnerBps = split.winnerBps
  organizerBps : item.organizerBps = split.organizerBps
  platformBps : item.platformBps = split.platformBps

theorem publicRaffleFromRow_eq_ok_iff (row : RaffleRow × PayoutSplitRow) (item : PublicRaffle) :
    publicRaffleFromRow row = .ok item ↔ item.Shows row.1 row.2 := by
  simp only [publicRaffleFromRow, bind_eq_ok_iff, asU64_eq_ok_iff, pure_eq_ok_iff]
  constructor
  · rintro ⟨price, hprice, pool, hpool, tickets, htickets, rfl⟩
    exact ⟨rfl, rfl, hprice, rfl, rfl, rfl, hpool, htickets, rfl, rfl, rfl⟩
  · obtain ⟨id, name, ⟨price⟩, start, stop, status, ⟨pool⟩, tickets, winner, organizer, platform⟩ :=
      item
    rintro ⟨rfl, rfl, hprice, rfl, rfl, rfl, hpool, htickets, rfl, rfl, rfl⟩
    exact ⟨price, hprice, pool, hpool, tickets, htickets, rfl⟩

theorem u16TryFrom_of_bps {value : ℤ} (h : 0 ≤ value ∧ value ≤ 10000) :
    ∃ bps, u16TryFrom value = some bps ∧ (bps.toNat : ℤ) = value := by
  refine ⟨UInt16.ofNat value.toNat, if_pos ⟨h.1, by omega⟩, ?_⟩
  rw [UInt16.toNat_ofNat_of_lt' (by change _ < 2 ^ 16; omega), Int.toNat_of_nonneg h.1]

/-- A split that the table accepts makes no `expect` fail. -/
theorem PublicRaffle.Shows.contract {raffle : RaffleRow} {split : PayoutSplitRow}
    {item : PublicRaffle} (h : item.Shows raffle split) (hsplit : Schema.Check split) :
    ∃ contract, item.contract = some contract ∧ contract.winnerBps.toNat +
      contract.organizerBps.toNat + contract.platformBps.toNat = 10000 := by
  obtain ⟨hwinner, horganizer, hplatform, hsum⟩ := hsplit
  obtain ⟨winner, hwinner, hwinnerBps⟩ := u16TryFrom_of_bps hwinner
  obtain ⟨organizer, horganizer, horganizerBps⟩ := u16TryFrom_of_bps horganizer
  obtain ⟨platform, hplatform, hplatformBps⟩ := u16TryFrom_of_bps hplatform
  rw [← h.winnerBps] at hwinner
  rw [← h.organizerBps] at horganizer
  rw [← h.platformBps] at hplatform
  simp only [PublicRaffle.contract, Option.bind_eq_bind, Option.bind_eq_some_iff, Option.pure_def,
    Option.some.injEq]
  exact ⟨_, ⟨winner, hwinner, organizer, horganizer, platform, hplatform, rfl⟩, by
    change winner.toNat + organizer.toNat + platform.toNat = 10000
    omega⟩

section Join

variable {db : Database} {raffle : RaffleRow}

theorem Database.mem_offers {offer : RaffleRow × PayoutSplitRow} :
    offer ∈ db.offers ↔ offer.1 ∈ db.raffles.rows ∧ offer.2 ∈ db.payoutSplits.rows ∧
      offer.2.raffleId = offer.1.id := by
  obtain ⟨raffle, split⟩ := offer
  simp [Database.offers]

/-- Where every raffle has its split, the join has one row for each raffle. -/
theorem Database.offers_map_fst
    (hsplit : ∀ raffle ∈ db.raffles.rows, ∃ split ∈ db.payoutSplits.rows,
      split.raffleId = raffle.id) : db.offers.map Prod.fst = db.raffles.rows := by
  rw [Database.offers, List.map_flatMap]
  calc db.raffles.rows.flatMap (fun raffle => ((db.payoutSplits.select
          (·.raffleId = raffle.id)).map fun split => (raffle, split)).map Prod.fst)
      = db.raffles.rows.flatMap fun raffle => [raffle] := by
        refine List.flatMap_congr fun raffle hmem => ?_
        obtain ⟨split, hsplit, hid⟩ := hsplit raffle hmem
        have hfind : db.payoutSplits.find (·.raffleId = raffle.id) = some split :=
          Table.find_eq_some hsplit (decide_eq_true hid) fun a b ha hb =>
            (of_decide_eq_true ha).trans (of_decide_eq_true hb).symm
        rw [Table.select_eq_toList_find fun a b ha hb =>
          (of_decide_eq_true ha).trans (of_decide_eq_true hb).symm, hfind]
        rfl
    _ = db.raffles.rows := List.flatMap_singleton' _

/-- The offers of one raffle are one row. -/
theorem Database.eq_of_offers {a b : RaffleRow × PayoutSplitRow} (ha : a ∈ db.offers)
    (hb : b ∈ db.offers) (hid : a.1.id = b.1.id) : a = b := by
  obtain ⟨hraffle, hsplit, hkey⟩ := Database.mem_offers.mp ha
  obtain ⟨hraffle', hsplit', hkey'⟩ := Database.mem_offers.mp hb
  exact Prod.ext (db.raffles.eq_of_clash hraffle hraffle' hid)
    (db.payoutSplits.eq_of_clash hsplit hsplit' ((hkey.trans hid).trans hkey'.symm))

theorem publicRaffle_of_offer {offer : RaffleRow × PayoutSplitRow} {item : PublicRaffle}
    (hmem : offer ∈ db.offers) (hitem : item.Shows offer.1 offer.2) :
    publicRaffle item.id db = .ok item := by
  have hfind : db.offers.find? (fun row => row.1.id = item.id) = some offer := by
    cases hfound : db.offers.find? fun row => row.1.id = item.id with
    | none =>
        have hnone := List.find?_eq_none.mp hfound offer hmem
        exact absurd (decide_eq_true hitem.id.symm) hnone
    | some other =>
        have hother : other.1.id = item.id := by simpa using List.find?_some hfound
        rw [Database.eq_of_offers (List.mem_of_find?_eq_some hfound) hmem
          (hother.trans hitem.id)]
  rw [publicRaffle, hfind, orElse_some, ok_bind]
  exact (publicRaffleFromRow_eq_ok_iff _ _).mpr hitem

end Join

/-! ## What the rows of a run hold -/

section Runs

variable {prim : Primitives} {store : Store}

/-- Prices fit in the column. -/
def Requested.PricesFit (requested : Requested) : Prop :=
  ∀ terms ∈ requested.raffles, terms.entryPriceSats < 2 ^ 63

theorem RequestStep.pricesFit {op : Op} {before after : Requested}
    (hstep : RequestStep op before after) (h : before.PricesFit) : after.PricesFit := by
  cases hstep with
  | create raffle _ hprice =>
      intro terms hmem
      rcases List.mem_append.mp hmem with hmem | hmem
      · exact h terms hmem
      · rw [List.mem_singleton.mp hmem]
        change (raffle.entryPriceSats.asU64.toNat : ℤ) < 2 ^ 63
        exact_mod_cast hprice
  | edit organizerId raffle _ hprice =>
      intro terms hmem
      obtain ⟨old, hold, rfl⟩ := List.mem_map.mp hmem
      split
      · change (raffle.entryPriceSats.asU64.toNat : ℤ) < 2 ^ 63
        exact_mod_cast hprice
      · exact h old hold
  | stay | organizer | pendingInvoice | collectionInvoice | collected | webhook => exact h

theorem Store.pricesFit_after (prim : Primitives) (operations : List Op) :
    (Store.after prim operations).db.requested.PricesFit :=
  StateMachine.invariant
    (fun (store : Store) op (h : store.db.requested.PricesFit) =>
      (store.step_request prim op).pricesFit h)
    (fun _ hmem => absurd hmem List.not_mem_nil) operations

theorem find_raffle {db : Database} {raffle : RaffleRow} (hmem : raffle ∈ db.raffles.rows) :
    db.raffles.find (·.id = raffle.id) = some raffle :=
  Table.find_eq_some hmem (decide_eq_true rfl) fun _ _ ha hb =>
    (of_decide_eq_true ha).trans (of_decide_eq_true hb).symm

/-- Every raffle has a split. -/
theorem Store.Sound.split_of_raffle (hsound : store.Sound prim) {raffle : RaffleRow}
    (hmem : raffle ∈ store.db.raffles.rows) :
    ∃ split ∈ store.db.payoutSplits.rows, split.raffleId = raffle.id := by
  have hstate := hsound.drawState (find_raffle hmem)
  obtain ⟨split, hsplit⟩ := Option.ne_none_iff_exists'.mp hstate.hasSplit
  obtain ⟨hmem, hid⟩ := Table.mem_of_find hsplit
  exact ⟨split, hmem, of_decide_eq_true hid⟩

/-- Every row of the join can be shown. -/
theorem Store.Sound.shown (hsound : store.Sound prim) (hprices : store.db.requested.PricesFit)
    {offer : RaffleRow × PayoutSplitRow} (hmem : offer ∈ store.db.offers) :
    ∃ item : PublicRaffle, item.Shows offer.1 offer.2 := by
  obtain ⟨hraffle, -, -⟩ := Database.mem_offers.mp hmem
  obtain ⟨-, ledger, cursor, htracks⟩ := hsound.tracks (find_raffle hraffle)
  have hpositive : 0 < offer.1.entryPriceSats := (store.db.raffles.checked _ hraffle).1
  have hfits : offer.1.entryPriceSats < 2 ^ 63 :=
    hprices offer.1.terms (List.mem_map_of_mem hraffle)
  have hprice : (UInt64.ofNat offer.1.entryPriceSats.toNat).toNat = offer.1.entryPriceSats.toNat :=
    UInt64.toNat_ofNat_of_lt' (by change _ < 2 ^ 64; omega)
  refine ⟨⟨offer.1.id, offer.1.name, ⟨UInt64.ofNat offer.1.entryPriceSats.toNat⟩,
    ofTimestamp offer.1.startTime, ofTimestamp offer.1.endTime, offer.1.status,
    ⟨cursor.totalPoolSats⟩, cursor.expectedTicketStart, offer.2.winnerBps, offer.2.organizerBps,
    offer.2.platformBps⟩, ⟨rfl, rfl, ?_, rfl, rfl, rfl, htracks.pool, htracks.tickets, rfl, rfl,
    rfl⟩⟩
  change offer.1.entryPriceSats = ((UInt64.ofNat offer.1.entryPriceSats.toNat).toNat : ℤ)
  omega

end Runs

/-! ## The lists -/

section Lists

variable {prim : Primitives} {store : Store} {createdAt : RaffleId → ℤ}

/-- A page with each of these raffles once, the newest first. -/
structure InOrder (createdAt : RaffleId → ℤ) (rows : List RaffleRow) (items : List PublicRaffle) :
    Prop where
  ids : (items.map PublicRaffle.id).Perm (rows.map RaffleRow.id)
  newest : items.Pairwise fun a b => createdAt b.id ≤ createdAt a.id

theorem newestFirst_pairwise (rows : List (RaffleRow × PayoutSplitRow)) :
    (newestFirst createdAt rows).Pairwise fun a b => createdAt b.1.id ≤ createdAt a.1.id := by
  have : Std.Total fun a b : RaffleRow × PayoutSplitRow => createdAt b.1.id ≤ createdAt a.1.id :=
    ⟨fun a b => le_total (createdAt b.1.id) (createdAt a.1.id)⟩
  have : IsTrans (RaffleRow × PayoutSplitRow) fun a b => createdAt b.1.id ≤ createdAt a.1.id :=
    ⟨fun a b c hab hbc => hbc.trans hab⟩
  exact List.pairwise_insertionSort _ _

theorem page_inOrder {rows : List (RaffleRow × PayoutSplitRow)} {items : List PublicRaffle}
    (h : (newestFirst createdAt rows).mapM publicRaffleFromRow = .ok items) :
    InOrder createdAt (rows.map Prod.fst) items := by
  have hids : (newestFirst createdAt rows).map (fun offer => offer.1.id) =
      items.map PublicRaffle.id := by
    rw [← List.forall₂_eq_eq_eq]
    refine List.rel_map ?_ ((mapM_eq_ok_iff _ _).mp h)
    exact fun offer item hitem => ((publicRaffleFromRow_eq_ok_iff offer item).mp hitem).id.symm
  refine ⟨?_, ?_⟩
  · rw [← hids, List.map_map]
    exact (List.perm_insertionSort _ rows).map _
  · rw [← List.pairwise_map (f := PublicRaffle.id) (R := fun a b => createdAt b ≤ createdAt a),
      ← hids]
    exact List.pairwise_map.mpr (newestFirst_pairwise rows)

/-- A page of rows of the join has an item for each of them. -/
theorem Store.Sound.page (hsound : store.Sound prim) (hprices : store.db.requested.PricesFit)
    (createdAt : RaffleId → ℤ) {rows : List (RaffleRow × PayoutSplitRow)}
    (hrows : rows ⊆ store.db.offers) :
    ∃ items, (newestFirst createdAt rows).mapM publicRaffleFromRow = .ok items ∧
      InOrder createdAt (rows.map Prod.fst) items ∧
      ∀ item ∈ items, ∃ offer ∈ store.db.offers, item.Shows offer.1 offer.2 := by
  have hmem : ∀ offer ∈ newestFirst createdAt rows, offer ∈ store.db.offers :=
    fun offer hoffer => hrows ((List.perm_insertionSort _ _).mem_iff.mp hoffer)
  obtain ⟨items, hitems⟩ : ∃ items, (newestFirst createdAt rows).mapM publicRaffleFromRow =
      .ok items := by
    refine exists_mapM fun offer hoffer => ?_
    obtain ⟨item, hitem⟩ := hsound.shown hprices (hmem offer hoffer)
    exact ⟨item, (publicRaffleFromRow_eq_ok_iff _ _).mpr hitem⟩
  refine ⟨items, hitems, page_inOrder hitems, fun item hitem => ?_⟩
  obtain ⟨offer, hoffer, hshown⟩ := exists_of_mem_mapM hitems hitem
  exact ⟨offer, hmem offer hoffer, (publicRaffleFromRow_eq_ok_iff _ _).mp hshown⟩

end Lists

/-- After every run the list has each raffle once, the newest first, with the answer that its own
page gives and percentages that the contract can hold; and the list of an organizer is the part
that is theirs. -/
theorem catalogue_complete (prim : Primitives) (createdAt : RaffleId → ℤ) (operations : List Op) :
    ∃ items, listPublicRaffles createdAt (Store.after prim operations).db = .ok items ∧
      InOrder createdAt (Store.after prim operations).db.raffles.rows items ∧
      (∀ item ∈ items, publicRaffle item.id (Store.after prim operations).db = .ok item ∧
        ∃ contract, item.contract = some contract ∧ contract.winnerBps.toNat +
          contract.organizerBps.toNat + contract.platformBps.toNat = 10000) ∧
      ∀ organizerId, ∃ own,
        organizerRaffles createdAt organizerId (Store.after prim operations).db = .ok own ∧
        own ⊆ items ∧ InOrder createdAt ((Store.after prim operations).db.raffles.rows.filter
          fun row => row.organizerId = organizerId) own := by
  have hsound := Store.sound_after prim operations
  have hprices := Store.pricesFit_after prim operations
  generalize Store.after prim operations = store at hsound hprices ⊢
  have hfst := Database.offers_map_fst fun _ => hsound.split_of_raffle
  obtain ⟨items, hitems, horder, hshown⟩ :=
    hsound.page hprices createdAt (List.Subset.refl _)
  rw [hfst] at horder
  have hpage : ∀ {item : PublicRaffle}, (∃ offer ∈ store.db.offers,
      item.Shows offer.1 offer.2) → publicRaffle item.id store.db = .ok item :=
    fun ⟨offer, hoffer, hitem⟩ => publicRaffle_of_offer hoffer hitem
  refine ⟨items, hitems, horder, fun item hitem => ⟨hpage (hshown item hitem), ?_⟩,
    fun organizerId => ?_⟩
  · obtain ⟨offer, hoffer, hitem⟩ := hshown item hitem
    exact hitem.contract (store.db.payoutSplits.checked _ (Database.mem_offers.mp hoffer).2.1)
  · have howned : (store.db.offers.filter fun row => row.1.organizerId = organizerId) ⊆
        store.db.offers := List.filter_sublist.subset
    obtain ⟨own, hown, hownOrder, hownShown⟩ := hsound.page hprices createdAt howned
    refine ⟨own, hown, fun item hitem => ?_, ?_⟩
    · -- the same raffle is in the public list, with the answer of its page
      obtain ⟨offer, hoffer, hitemShown⟩ := hownShown item hitem
      have hid : item.id ∈ items.map PublicRaffle.id := by
        rw [horder.ids.mem_iff, hitemShown.id]
        exact List.mem_map_of_mem (Database.mem_offers.mp hoffer).1
      obtain ⟨other, hother, heq⟩ := List.mem_map.mp hid
      have hotherPage := hpage (hshown other hother)
      rw [heq, hpage (hownShown item hitem)] at hotherPage
      exact Except.ok.inj hotherPage ▸ hother
    · rw [← hfst, List.filter_map]
      exact hownOrder

end OpenPool
