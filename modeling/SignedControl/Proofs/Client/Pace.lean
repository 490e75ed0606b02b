import Mathlib.Data.Nat.Basic
import SignedControl.Proofs.Client.Schedule

/-!
# Ticks at equal distances

A client is ticked at a clock that goes on by the same time after each tick, and the transport takes
every request. If the client sends as soon as it has waited for some time since its last request,
then it sends at every tick of a fixed period.

* `ManualClock.turns`, `Client.offers`: such a run, and what each tick hands to the transport.
* `scheduled`: the requests of a period. `flatMap_scheduled` counts them.
* `Paces`: what has to be known of the ticks of such a client. `Paces.next_tick` is one tick, and
  `Paces.offers_eq` a run.
-/

namespace SignedControl

/-! ## The clock -/

theorem Duration.ofMilliseconds_zero : ofMilliseconds 0 = 0 := rfl

theorem Duration.ofMilliseconds_add (a b : Nat) :
    ofMilliseconds (a + b) = ofMilliseconds a + ofMilliseconds b := Nat.add_mul a b _

theorem Duration.ofMilliseconds_le_iff {a b : Nat} :
    ofMilliseconds a ≤ ofMilliseconds b ↔ a ≤ b := Nat.mul_le_mul_right_iff (by decide)

theorem Duration.ofMilliseconds_max (a b : Nat) :
    ofMilliseconds (max a b) = max (ofMilliseconds a) (ofMilliseconds b) :=
  (Nat.mul_max_mul_right a b _).symm

theorem ManualClock.elapsed_advance {clock : ManualClock} {interval : Nat}
    (h : clock.elapsed.toNat + interval < UInt64.size) :
    (clock.advance (.ofMilliseconds interval)).elapsed.toNat = clock.elapsed.toNat + interval := by
  rw [advance, Duration.milliseconds_ofMilliseconds, UInt64.toNat_add, UInt64.toNat_ofNat',
    Nat.add_mod_mod]
  exact Nat.mod_eq_of_lt h

theorem ManualClock.now_advance {clock : ManualClock} {interval : Nat}
    (h : clock.elapsed.toNat + interval < UInt64.size) :
    (clock.advance (.ofMilliseconds interval)).now =
      clock.now + Duration.ofMilliseconds interval := by
  rw [now, now, elapsed_advance h, Duration.ofMilliseconds_add]

/-- No time has gone at the beginning of a period. -/
theorem ManualClock.now_eq_add (clock : ManualClock) (interval : Nat) :
    clock.now = clock.now + Duration.ofMilliseconds (0 * interval) := by
  rw [Nat.zero_mul, Duration.ofMilliseconds_zero, Nat.add_zero]

/-- Turns at a manual clock that goes on by the same time after each of them, with the replies that
come. The transport takes every request. -/
def ManualClock.turns (clock : ManualClock) (interval : Nat) : List (List Response) → List Turn
  | [] => []
  | arrived :: later =>
    ⟨clock.now, arrived, .ok ()⟩ :: (clock.advance (.ofMilliseconds interval)).turns interval later

theorem ManualClock.length_turns (clock : ManualClock) (interval : Nat)
    (arrivals : List (List Response)) :
    (clock.turns interval arrivals).length = arrivals.length := by
  induction arrivals generalizing clock with
  | nil => rfl
  | cons arrived later ih => rw [turns, List.length_cons, List.length_cons, ih]

/-! ## Periods -/

/-- The requests of a period, each at its tick. -/
def scheduled (period : Nat) (request : Nat → Outgoing) (tick : Nat) : Option Outgoing :=
  if period ∣ tick then some (request (tick / period)) else none

theorem scheduled_of_lt {period tick : Nat} (hpos : 0 < tick) (hlt : tick < period)
    (request : Nat → Outgoing) : scheduled period request tick = none :=
  if_neg (Nat.not_dvd_of_pos_of_lt hpos hlt)

theorem scheduled_zero (period : Nat) (request : Nat → Outgoing) :
    scheduled period request 0 = some (request 0) := by
  rw [scheduled, if_pos (Nat.dvd_zero period), Nat.zero_div]

theorem scheduled_self {period : Nat} (hpos : 0 < period) (request : Nat → Outgoing) :
    scheduled period request period = some (request 1) := by
  rw [scheduled, if_pos (Nat.dvd_refl period), Nat.div_self hpos]

/-- After a period the next request takes the place of the first. -/
theorem scheduled_add {period : Nat} (hpos : 0 < period) (request : Nat → Outgoing) (tick : Nat) :
    scheduled period request (period + tick) =
      scheduled period (fun n => request (n + 1)) tick := by
  simp only [scheduled, Nat.dvd_add_right (Nat.dvd_refl period), Nat.add_div_left tick hpos]

theorem map_range_succ {α : Type} (f : Nat → α) (n : Nat) :
    (List.range (n + 1)).map f = f 0 :: (List.range n).map fun i => f (i + 1) := by
  rw [List.range_succ_eq_map, List.map_cons, List.map_map]
  rfl

/-- In a number of ticks there is a request for each period that has begun. -/
theorem flatMap_scheduled {period : Nat} (hpos : 0 < period) (request : Nat → Outgoing)
    (ticks : Nat) :
    ((List.range ticks).map (scheduled period request)).flatMap Option.toList =
      (List.range ((ticks + period - 1) / period)).map request := by
  induction ticks with
  | zero => rw [Nat.zero_add, Nat.div_eq_of_lt (Nat.sub_one_lt_of_lt hpos)]; rfl
  | succ ticks ih =>
    have hnext : (ticks + 1 + period - 1) / period = ticks / period + 1 := by
      rw [Nat.add_right_comm, Nat.add_sub_cancel, Nat.add_div_right _ hpos]
    have hlast : ticks + period - 1 + 1 = ticks + period := by omega
    have hbegun : (ticks + period - 1 + 1) / period = _ := Nat.succ_div
    simp only [hlast, Nat.add_div_right _ hpos, Nat.dvd_add_self_right] at hbegun
    rw [List.range_succ, List.map_append, List.flatMap_append, ih, List.map_singleton,
      List.flatMap_singleton, scheduled, hnext]
    split at hbegun
    · next hdvd =>
      rw [if_pos hdvd, Nat.succ.inj hbegun, List.range_succ, List.map_append]
      rfl
    · next hdvd =>
      rw [if_neg hdvd, hbegun, Option.toList_none, List.append_nil, Nat.add_zero]

/-! ## Keeping a pace -/

section Scheme

variable [SignatureScheme]

namespace Client

/-- What each turn hands to the transport. -/
def offers (c : Client) : List Turn → List (Option Outgoing)
  | [] => []
  | t :: later => (c.turn t).offered :: (c.turn t).client.offers later

theorem length_offers (c : Client) (turns : List Turn) :
    (c.offers turns).length = turns.length := by
  induction turns generalizing c with
  | nil => rfl
  | cons t turns ih => rw [offers, List.length_cons, List.length_cons, ih]

/-- The replies of a tick stand beside the request of that tick. -/
theorem exists_mem_zip (c : Client) (clock : ManualClock) (interval : Nat)
    {arrivals : List (List Response)} {rs : List Response} (h : rs ∈ arrivals) :
    ∃ tick ∈ (c.offers (clock.turns interval arrivals)).zip arrivals, tick.2 = rs := by
  have hlength : (c.offers (clock.turns interval arrivals)).length = arrivals.length := by
    rw [length_offers, ManualClock.length_turns]
  rw [← List.map_snd_zip (Nat.le_of_eq hlength.symm)] at h
  exact List.mem_map.mp h

theorem calls_eq (c : Client) (turns : List Turn) :
    c.calls turns = (c.offers turns).flatMap Option.toList := by
  induction turns generalizing c with
  | nil => rfl
  | cons t turns ih => rw [calls, offers, List.flatMap_cons, ih]

end Client

/-- No reply that comes at the later tick harms a request of the earlier one. -/
def Spares (harmless : Outgoing → List Response → Prop)
    (earlier later : Option Outgoing × List Response) : Prop :=
  ∀ o, earlier.1 = some o → harmless o later.2

/-- Clients that send their requests one after another, each as soon as they have waited for some
time since the one before, if the replies that come do no harm to it. Of a client for which
`P seen last n` holds, request `n` was the last one, sent at `last`, and the clock has been read at
`seen`. -/
structure Paces (P : Instant → Instant → Nat → Client → Prop) (wait : Duration)
    (request : Nat → Outgoing) (harmless : Outgoing → List Response → Prop) : Prop where
  /-- The next request goes out when the time is over. -/
  late : ∀ {seen last n c now arrived}, P seen last n c → seen ≤ now →
    harmless (request n) arrived → wait ≤ now.since last →
      (c.turn ⟨now, arrived, .ok ()⟩).offered = some (request (n + 1)) ∧
        P now now (n + 1) (c.turn ⟨now, arrived, .ok ()⟩).client
  /-- It does not before. -/
  early : ∀ {seen last n c now arrived}, P seen last n c → seen ≤ now →
    harmless (request n) arrived → now.since last < wait →
      (c.turn ⟨now, arrived, .ok ()⟩).offered = none ∧
        P now last n (c.turn ⟨now, arrived, .ok ()⟩).client

/-- What comes after a request spares it. -/
theorem harmless_of_spares {harmless : Outgoing → List Response → Prop} {c : Client}
    {clock : ManualClock} {interval : Nat} {later : List (List Response)}
    {tick : Option Outgoing × List Response} {o : Outgoing}
    (hspares : ∀ tick' ∈ (c.offers (clock.turns interval later)).zip later,
      Spares harmless tick tick') (hoffered : tick.1 = some o) :
    ∀ rs ∈ later, harmless o rs := by
  intro rs hrs
  obtain ⟨tick', htick', rfl⟩ := c.exists_mem_zip clock interval hrs
  exact hspares tick' htick' o hoffered

namespace Paces

variable {P : Instant → Instant → Nat → Client → Prop} {wait interval : Nat}
  {request : Nat → Outgoing} {harmless : Outgoing → List Response → Prop} {c : Client}

/-- A tick ends the period, or it falls into it. -/
theorem next_tick (hp : Paces P (.ofMilliseconds wait) request harmless) (hinterval : 0 < interval)
    {clock : ManualClock} {arrived : List Response} {last : Instant} {n gone : Nat}
    (hc : P clock.now last n c)
    (hnow : clock.now = last + Duration.ofMilliseconds (gone * interval))
    (hgone : gone < ticksBetween wait interval)
    (hclock : clock.elapsed.toNat + interval < UInt64.size)
    (hharmless : harmless (request n) arrived) {next : Instant}
    (hnext : next = (clock.advance (.ofMilliseconds interval)).now) :
    (gone + 1 = ticksBetween wait interval ∧
      (c.turn ⟨next, arrived, .ok ()⟩).offered = some (request (n + 1)) ∧
        P next next (n + 1) (c.turn ⟨next, arrived, .ok ()⟩).client) ∨
    (gone + 1 < ticksBetween wait interval ∧
      next = last + Duration.ofMilliseconds ((gone + 1) * interval) ∧
      (c.turn ⟨next, arrived, .ok ()⟩).offered = none ∧
        P next last n (c.turn ⟨next, arrived, .ok ()⟩).client) := by
  rw [ManualClock.now_advance hclock] at hnext
  have hseen : clock.now ≤ next := by
    rw [hnext]
    exact Nat.le_add_right _ _
  have hlast : next = last + Duration.ofMilliseconds ((gone + 1) * interval) := by
    rw [hnext, hnow, Nat.succ_mul, Duration.ofMilliseconds_add, Nat.add_assoc]
  have hdue : Duration.ofMilliseconds wait ≤ next.since last ↔
      ticksBetween wait interval ≤ gone + 1 := by
    rw [hlast, Instant.since, Nat.add_sub_cancel_left, Duration.ofMilliseconds_le_iff,
      ticksBetween_le_iff hinterval (Nat.succ_pos gone)]
  rcases Nat.eq_or_lt_of_le (Nat.succ_le_of_lt hgone) with hover | hwithin
  · exact .inl ⟨hover, hp.late hc hseen hharmless (hdue.mpr (Nat.le_of_eq hover.symm))⟩
  · have hearly := Nat.lt_of_not_le fun h => Nat.not_le_of_lt hwithin (hdue.mp h)
    exact .inr ⟨hwithin, hlast, hp.early hc hseen hharmless hearly⟩

/-- The ticks from some point of a period on. -/
theorem offers_after (hp : Paces P (.ofMilliseconds wait) request harmless)
    (hinterval : 0 < interval) {clock : ManualClock} {arrivals : List (List Response)}
    {last : Instant} {n gone : Nat} (hc : P clock.now last n c)
    (hnow : clock.now = last + Duration.ofMilliseconds (gone * interval))
    (hgone : gone < ticksBetween wait interval)
    (hclock : clock.elapsed.toNat + arrivals.length * interval < UInt64.size)
    (hlast : ∀ arrived ∈ arrivals, harmless (request n) arrived)
    (hspares : ((c.offers ((clock.advance (.ofMilliseconds interval)).turns interval
      arrivals)).zip arrivals).Pairwise (Spares harmless)) :
    c.offers ((clock.advance (.ofMilliseconds interval)).turns interval arrivals) =
      (List.range arrivals.length).map fun i =>
        scheduled (ticksBetween wait interval) (fun q => request (n + q)) (gone + 1 + i) := by
  induction arrivals generalizing clock last n gone c with
  | nil => rfl
  | cons arrived later ih =>
    have hpos := ticksBetween_pos wait interval
    rw [List.length_cons, Nat.succ_mul] at hclock
    have hnowrap : clock.elapsed.toNat + interval < UInt64.size := by omega
    have hclock' : (clock.advance (.ofMilliseconds interval)).elapsed.toNat +
        later.length * interval < UInt64.size := by
      rw [ManualClock.elapsed_advance hnowrap]
      omega
    rw [ManualClock.turns, Client.offers, List.zip_cons_cons, List.pairwise_cons] at hspares
    obtain ⟨hfirst, hrest⟩ := hspares
    rw [ManualClock.turns, Client.offers, List.length_cons, map_range_succ]
    rcases hp.next_tick hinterval hc hnow hgone hnowrap (hlast arrived List.mem_cons_self) rfl with
      ⟨hover, hoffered, hc'⟩ | ⟨hwithin, hnow', hoffered, hc'⟩
    · have hspared := harmless_of_spares hfirst hoffered
      rw [ih hc' (ManualClock.now_eq_add _ _) hpos hclock' hspared hrest, hoffered, hover]
      congr 1
      · exact (scheduled_self hpos fun q => request (n + q)).symm
      · refine List.map_congr_left fun i _ => ?_
        rw [scheduled_add hpos, Nat.zero_add, Nat.add_comm 1 i]
        simp only [Nat.add_assoc, Nat.add_comm 1]
    · rw [ih hc' hnow' hwithin hclock' (fun rs hrs => hlast rs (List.mem_cons_of_mem _ hrs)) hrest,
        hoffered]
      congr 1
      · exact (scheduled_of_lt (Nat.succ_pos gone) hwithin _).symm
      · refine List.map_congr_left fun i _ => ?_
        rw [Nat.add_assoc (gone + 1), Nat.add_comm 1 i]

/-- The ticks from the first request on. -/
theorem offers_eq (hp : Paces P (.ofMilliseconds wait) request harmless) (hinterval : 0 < interval)
    {clock : ManualClock} {arrived : List Response} {later : List (List Response)}
    (hoffered : (c.turn ⟨clock.now, arrived, .ok ()⟩).offered = some (request 0))
    (hc : P clock.now clock.now 0 (c.turn ⟨clock.now, arrived, .ok ()⟩).client)
    (hclock : clock.elapsed.toNat + later.length * interval < UInt64.size)
    (hspares : ((c.offers (clock.turns interval (arrived :: later))).zip
      (arrived :: later)).Pairwise (Spares harmless)) :
    c.offers (clock.turns interval (arrived :: later)) =
      (List.range (later.length + 1)).map (scheduled (ticksBetween wait interval) request) := by
  rw [ManualClock.turns, Client.offers, List.zip_cons_cons, List.pairwise_cons] at hspares
  obtain ⟨hfirst, hrest⟩ := hspares
  have hspared := harmless_of_spares hfirst hoffered
  rw [ManualClock.turns, Client.offers, map_range_succ, hoffered, scheduled_zero,
    hp.offers_after hinterval hc (clock.now_eq_add interval) (ticksBetween_pos _ _) hclock hspared
      hrest]
  congr 1
  refine List.map_congr_left fun i _ => ?_
  simp only [Nat.zero_add, Nat.add_comm 1 i]

end Paces

end Scheme

end SignedControl
