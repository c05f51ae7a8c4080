import Mathlib.Logic.Relation
import OverlayGateway.Overlay
import OverlayGateway.Proofs.Polling
/-!
Which address a search for the overlay interface finds, and what it does not depend on. A listing
gives the first address, in its order, that is assigned to the interface of exactly that name and to
which peers can connect; the search takes the first listing that gives one, among those that the
polling makes, and makes none behind it. A listing that fails is as good as an empty one, and the
addresses of other interfaces are as good as none: they change neither what is found, nor how many
listings are made, nor when the search ends.
-/

set_option autoImplicit false
set_option relaxedAutoImplicit false

namespace OverlayGateway.Overlay

variable {interface : String} {address : Ip.V4}

/-! ### The first usable address of a list -/

/-- Whether peers can connect to an address: it is none of 127.0.0.0/8, and not 0.0.0.0. -/
structure Connectable (address : Ip.V4) : Prop where
  external : address.a ≠ 127
  specified : address ≠ ⟨0, 0, 0, 0⟩

/-- Whether an address is the first one on the interface to which peers can connect. -/
def IsFirst (interface : String) (assignments : List Assignment) (address : Ip.V4) : Prop :=
  Connectable address ∧ ∃ before after,
    assignments = before ++ ⟨interface, .v4 address⟩ :: after ∧
      ∀ other, Connectable other → ⟨interface, .v4 other⟩ ∉ before

theorem usable?_eq_some_iff {assignment : Assignment} :
    usable? assignment = some address ↔
      assignment.address = .v4 address ∧ Connectable address := by
  have hconnectable (other : Ip.V4) :
      Connectable other ↔ (other.isLoopback || other.isUnspecified) = false := by
    rw [Bool.or_eq_false_iff]
    exact ⟨fun h ↦ ⟨beq_false_of_ne h.external, beq_false_of_ne h.specified⟩,
      fun h ↦ ⟨ne_of_beq_false h.1, ne_of_beq_false h.2⟩⟩
  unfold usable?
  split
  next other hother =>
    split
    next hnot =>
      simp only [reduceCtorEq, false_iff, hother, Ip.Address.v4.injEq, not_and]
      rintro rfl hfit
      simp [(hconnectable _).1 hfit] at hnot
    next hfit =>
      rw [hother, Option.some_inj, Ip.Address.v4.injEq, iff_self_and]
      rintro rfl
      exact (hconnectable _).2 (eq_false_of_ne_true hfit)
  next other hother => simp [hother]

/-- The address of an assignment, if it is on the interface and peers can connect to it. -/
def offered? (interface : String) (assignment : Assignment) : Option Ip.V4 :=
  if assignment.interface = interface then usable? assignment else none

theorem offered?_eq_some_iff {assignment : Assignment} :
    offered? interface assignment = some address ↔
      assignment = ⟨interface, .v4 address⟩ ∧ Connectable address := by
  obtain ⟨name, other⟩ := assignment
  unfold offered?
  split
  next hname => simp_all [usable?_eq_some_iff]
  next hname => simp_all

theorem find?_eq_findSome? (assignments : List Assignment) (interface : String) :
    find? assignments interface = assignments.findSome? (offered? interface) := by
  rw [find?, ← List.head?_filterMap, List.filterMap_filter, List.head?_filterMap]
  congr 1
  funext assignment
  simp [offered?]

theorem find?_eq_some_iff {assignments : List Assignment} :
    find? assignments interface = some address ↔ IsFirst interface assignments address := by
  rw [find?_eq_findSome?, List.findSome?_eq_some_iff]
  constructor
  · rintro ⟨before, assignment, after, rfl, hoffered, hbefore⟩
    obtain ⟨rfl, hconnectable⟩ := offered?_eq_some_iff.1 hoffered
    refine ⟨hconnectable, before, after, rfl, fun other hother hmem ↦ ?_⟩
    have hnone := hbefore _ hmem
    rw [offered?_eq_some_iff.2 ⟨rfl, hother⟩] at hnone
    cases hnone
  · rintro ⟨hconnectable, before, after, rfl, hbefore⟩
    refine ⟨before, _, after, rfl, offered?_eq_some_iff.2 ⟨rfl, hconnectable⟩, ?_⟩
    intro assignment hmem
    refine Option.eq_none_iff_forall_ne_some.2 fun other hoffered ↦ ?_
    obtain ⟨rfl, hother⟩ := offered?_eq_some_iff.1 hoffered
    exact hbefore other hother hmem

/-! ### What a listing gives -/

/-- The address that a listing gives. -/
def sighted? (interface : String) : Listing → Option Ip.V4
  | .ok assignments => find? assignments interface
  | .error _ => none

/-- Whether an address is the one that a listing gives: it succeeded, and that address is the first
in it. -/
def Sees (interface : String) (listing : Listing) (address : Ip.V4) : Prop :=
  ∃ assignments, listing = .ok assignments ∧ IsFirst interface assignments address

/-- Whether a listing succeeded and has some address on the interface to which peers can connect. -/
def IsUsable (interface : String) (listing : Listing) : Prop :=
  ∃ assignments address, listing = .ok assignments ∧
    ⟨interface, .v4 address⟩ ∈ assignments ∧ Connectable address

theorem sighted?_eq_some_iff {listing : Listing} :
    sighted? interface listing = some address ↔ Sees interface listing address := by
  cases listing with
  | ok assignments => simp [sighted?, Sees, find?_eq_some_iff]
  | error failure => simp [sighted?, Sees]

theorem isUsable_iff {listing : Listing} :
    IsUsable interface listing ↔ (sighted? interface listing).isSome := by
  cases listing with
  | ok assignments =>
    rw [sighted?, find?_eq_findSome?, List.findSome?_isSome_iff]
    constructor
    · rintro ⟨_, address, ⟨⟩, hmem, hconnectable⟩
      refine ⟨_, hmem, ?_⟩
      rw [offered?_eq_some_iff.2 ⟨rfl, hconnectable⟩]
      rfl
    · rintro ⟨assignment, hmem, hoffered⟩
      obtain ⟨address, haddress⟩ := Option.isSome_iff_exists.1 hoffered
      obtain ⟨rfl, hconnectable⟩ := offered?_eq_some_iff.1 haddress
      exact ⟨assignments, address, rfl, hmem, hconnectable⟩
  | error failure => simp [sighted?, IsUsable]

theorem isUsable_iff_exists_sees {listing : Listing} :
    IsUsable interface listing ↔ ∃ address, Sees interface listing address := by
  simp only [isUsable_iff, Option.isSome_iff_exists, sighted?_eq_some_iff]

/-! ### What a listing does not depend on -/

/-- A change to a listing that has nothing to do with the interface. -/
inductive Unrelated (interface : String) : Listing → Listing → Prop
  /-- A failed listing is replaced by an empty one. -/
  | failed (failure : Failure) : Unrelated interface (.error failure) (.ok [])
  /-- An address of another interface is added somewhere in the list. -/
  | added (before after : List Assignment) {assignment : Assignment}
      (hother : assignment.interface ≠ interface) :
      Unrelated interface (.ok (before ++ after)) (.ok (before ++ assignment :: after))

theorem Unrelated.sighted? {first second : Listing} (h : Unrelated interface first second) :
    sighted? interface first = sighted? interface second := by
  cases h with
  | failed failure => rfl
  | added before after hother => simp [Overlay.sighted?, find?, hother]

/-- Whether two listings take as long and differ by a series of such changes and their reverses. -/
structure Enumeration.Alike (interface : String) (first second : Enumeration) : Prop where
  listing : Relation.EqvGen (Unrelated interface) first.listing second.listing
  duration : first.duration = second.duration
  cancels : first.cancels = second.cancels

theorem sighted?_eq_of_eqvGen {first second : Listing}
    (h : Relation.EqvGen (Unrelated interface) first second) :
    sighted? interface first = sighted? interface second := by
  induction h with
  | rel first second hstep => exact hstep.sighted?
  | refl listing => rfl
  | symm first second _ ih => exact ih.symm
  | trans first second third _ _ ih ih' => exact ih.trans ih'

/-! ### Attempts -/

theorem unlogged_attempt (interface : String) (number : Nat) (enumeration : Enumeration) :
    (attempt interface number enumeration).unlogged =
      { value := sighted? interface enumeration.listing
        duration := enumeration.duration
        cancels := enumeration.cancels } := by
  obtain ⟨listing, duration, cancels⟩ := enumeration
  cases listing <;> rfl

theorem Enumeration.Alike.unlogged_attempt {first second : Enumeration}
    (h : first.Alike interface second) (number : Nat) :
    (attempt interface number first).unlogged = (attempt interface number second).unlogged := by
  rw [Overlay.unlogged_attempt, Overlay.unlogged_attempt, sighted?_eq_of_eqvGen h.listing,
    h.duration, h.cancels]

/-! ### Searches -/

/-- The polling of a search. -/
def course (clock : Clock) (backoff : Backoff) (interface : String)
    (enumeration : Nat → Enumeration) (firedAt : Option Nat) : Polling.Course Ip.V4 where
  clock := clock
  backoff := backoff
  script number := attempt interface number (enumeration number)
  firedAt := firedAt

section Search

variable (clock : Clock) (backoff : Backoff) (interface : String)
  (enumeration : Nat → Enumeration) (firedAt : Option Nat)

theorem value?_course {number : Nat} (hpos : 0 < number) :
    (course clock backoff interface enumeration firedAt).value? number =
      sighted? interface (enumeration number).listing := by
  obtain ⟨count, rfl⟩ := Nat.exists_eq_add_one.2 hpos
  exact congrArg Polling.Attempt.value
    (unlogged_attempt interface (count + 1) (enumeration (count + 1)))

/-- The listings are the attempts that the polling allows, and the last of them decides. -/
theorem isGreatest_listings :
    let course := course clock backoff interface enumeration firedAt
    let search := locate clock backoff interface enumeration firedAt
    IsGreatest {count | course.Allows count} search.listings ∧
      search.found = course.value? search.listings := by
  intro course search
  obtain ⟨count, hfollows⟩ := course.exists_follows_run "overlay interface discovery"
  have hlistings : search.listings = count := by
    refine (congrArg List.length hfollows.attempts).trans ?_
    rw [List.length_map, List.length_range']
  rw [hlistings]
  exact ⟨hfollows.isGreatest, Nat.zero_add count ▸ hfollows.ends.value?_eq⟩

theorem found_eq_some_iff :
    let search := locate clock backoff interface enumeration firedAt
    search.found = some address ↔
      0 < search.listings ∧ Sees interface (enumeration search.listings).listing address := by
  intro search
  have hfound := (isGreatest_listings clock backoff interface enumeration firedAt).2
  rcases Nat.eq_zero_or_pos search.listings with hzero | hpos
  · -- before the first attempt there is no value
    have hnone : search.found = none :=
      hfound.trans (congrArg (course clock backoff interface enumeration firedAt).value? hzero)
    simp [hnone, hzero]
  · have hsighted : search.found = sighted? interface (enumeration search.listings).listing :=
      hfound.trans (value?_course clock backoff interface enumeration firedAt hpos)
    rw [hsighted, sighted?_eq_some_iff]
    exact (and_iff_right hpos).symm

/-- No listing follows one that has a usable address. -/
theorem listings_eq_of_isUsable :
    let search := locate clock backoff interface enumeration firedAt
    ∀ number, 0 < number → number ≤ search.listings →
      IsUsable interface (enumeration number).listing → search.listings = number := by
  intro search number hpos hle husable
  have hallows := (isGreatest_listings clock backoff interface enumeration firedAt).1.1
  refine Nat.le_antisymm (Nat.not_lt.1 fun hlt ↦ ?_) hle
  have hmissed := hallows.missed number hlt
  rw [value?_course clock backoff interface enumeration firedAt hpos] at hmissed
  rw [isUsable_iff, hmissed] at husable
  cases husable

/-- Searches whose attempts differ in what they log differ in nothing but that. -/
theorem locate_congr {other : Nat → Enumeration}
    (h : ∀ number, (attempt interface number (enumeration number)).unlogged =
      (attempt interface number (other number)).unlogged) :
    let search := locate clock backoff interface enumeration firedAt
    let changed := locate clock backoff interface other firedAt
    changed.found = search.found ∧ changed.listings = search.listings ∧
      changed.endedAt = search.endedAt := by
  intro search changed
  let run (enumeration : Nat → Enumeration) : Polling.Run Ip.V4 :=
    Polling.run clock backoff "overlay interface discovery"
      (fun number ↦ attempt interface number (enumeration number)) firedAt
  have hrun : (run other).unlogged = (run enumeration).unlogged := by
    simp only [run, Polling.run]
    rw [Polling.unlogged_runFrom, ← funext h, ← Polling.unlogged_runFrom]
  exact ⟨congrArg (fun run ↦ run.outcome.value?) hrun,
    congrArg (fun run ↦ run.attempts.length) hrun, congrArg (fun run ↦ run.endedAt) hrun⟩

end Search

/-- A search finds an address if and only if a listing among those that the polling makes has a
usable one, and then the first usable address of the first such listing, behind which no other
listing is made. Failures in place of empty listings and addresses of other interfaces change
neither what is found, nor how many listings are made, nor when the search ends. -/
theorem locate_first_usable (clock : Clock) (backoff : Backoff) (interface : String)
    (enumeration : Nat → Enumeration) (firedAt : Option Nat) :
    let course := course clock backoff interface enumeration firedAt
    let search := locate clock backoff interface enumeration firedAt
    let usable (number : Nat) : Prop := IsUsable interface (enumeration number).listing
    IsGreatest {count | course.Allows count} search.listings ∧
    (search.found.isSome ↔ ∃ number, 0 < number ∧ number ≤ search.listings ∧ usable number) ∧
    (∀ address, search.found = some address ↔
      ∃ number, 0 < number ∧ number ≤ search.listings ∧
        Sees interface (enumeration number).listing address ∧
        ∀ earlier, 0 < earlier → earlier < number → ¬ usable earlier) ∧
    (∀ number, 0 < number → number ≤ search.listings → usable number →
      search.listings = number) ∧
    ∀ other : Nat → Enumeration, (∀ number, (enumeration number).Alike interface (other number)) →
      let changed := locate clock backoff interface other firedAt
      changed.found = search.found ∧ changed.listings = search.listings ∧
        changed.endedAt = search.endedAt := by
  intro course search usable
  have hfound (address : Ip.V4) :
      search.found = some address ↔
        0 < search.listings ∧ Sees interface (enumeration search.listings).listing address :=
    found_eq_some_iff clock backoff interface enumeration firedAt
  have hlast : ∀ number, 0 < number → number ≤ search.listings → usable number →
      search.listings = number :=
    listings_eq_of_isUsable clock backoff interface enumeration firedAt
  refine ⟨(isGreatest_listings clock backoff interface enumeration firedAt).1, ?_,
    fun address ↦ ?_, hlast, fun other halike ↦ ?_⟩
  · rw [Option.isSome_iff_exists]
    constructor
    · rintro ⟨address, haddress⟩
      obtain ⟨hpos, hsees⟩ := (hfound address).1 haddress
      exact ⟨_, hpos, Nat.le_refl _, isUsable_iff_exists_sees.2 ⟨address, hsees⟩⟩
    · rintro ⟨number, hpos, hle, husable⟩
      obtain ⟨address, hsees⟩ := isUsable_iff_exists_sees.1 husable
      refine ⟨address, (hfound address).2 ?_⟩
      rw [hlast number hpos hle husable]
      exact ⟨hpos, hsees⟩
  · rw [hfound]
    constructor
    · rintro ⟨hpos, hsees⟩
      refine ⟨_, hpos, Nat.le_refl _, hsees, fun earlier hearlier hlt husable ↦ ?_⟩
      exact Nat.ne_of_gt hlt (hlast earlier hearlier (Nat.le_of_lt hlt) husable)
    · rintro ⟨number, hpos, hle, hsees, -⟩
      rw [hlast number hpos hle (isUsable_iff_exists_sees.2 ⟨address, hsees⟩)]
      exact ⟨hpos, hsees⟩
  · exact locate_congr clock backoff interface enumeration firedAt fun number ↦
      (halike number).unlogged_attempt number

/-- The third listing gives an address. It would as well if the first were empty instead of failing,
if the second had no address of another interface, and if the third had one in front. -/
theorem locate_first_usable_sample :
    let other : Assignment := ⟨"eth0", .v4 ⟨192, 168, 1, 10⟩⟩
    let loopback : Assignment := ⟨"netmaker", .v4 ⟨127, 0, 0, 2⟩⟩
    let overlay : List Assignment :=
      [⟨"netmaker", .v4 ⟨10, 101, 0, 4⟩⟩, ⟨"netmaker", .v4 ⟨10, 101, 0, 5⟩⟩]
    let enumeration : Nat → Enumeration
      | 1 => { listing := .error (.internal "netlink unavailable") }
      | 2 => { listing := .ok [loopback, other] }
      | _ => { listing := .ok overlay, duration := nanosPerMilli, cancels := true }
    let changed : Nat → Enumeration
      | 1 => { listing := .ok [] }
      | 2 => { listing := .ok [loopback] }
      | _ => { listing := .ok (other :: overlay), duration := nanosPerMilli, cancels := true }
    let search (enumeration : Nat → Enumeration) : Search :=
      locate .milliseconds { maxAttempts := 20 } "netmaker" enumeration none
    (∀ number, (enumeration number).Alike "netmaker" (changed number)) ∧
      (search changed).found = some ⟨10, 101, 0, 4⟩ ∧ (search changed).listings = 3 ∧
      (search changed).endedAt = 9001 * nanosPerMilli := by
  intro other loopback overlay enumeration changed search
  have hother : other.interface ≠ "netmaker" := by decide
  have halike : ∀ number, (enumeration number).Alike "netmaker" (changed number)
    | 0 => ⟨.rel _ _ (.added [] overlay hother), rfl, rfl⟩
    | 1 => ⟨.rel _ _ (.failed _), rfl, rfl⟩
    | 2 => ⟨.symm _ _ (.rel _ _ (.added [loopback] [] hother)), rfl, rfl⟩
    | _ + 3 => ⟨.rel _ _ (.added [] overlay hother), rfl, rfl⟩
  obtain ⟨-, -, -, -, hsame⟩ :=
    locate_first_usable .milliseconds { maxAttempts := 20 } "netmaker" enumeration none
  obtain ⟨hfound, hlistings, hended⟩ := hsame changed halike
  have hsearch : (search enumeration).found = some ⟨10, 101, 0, 4⟩ ∧
      (search enumeration).listings = 3 ∧
      (search enumeration).endedAt = 9001 * nanosPerMilli := by
    decide
  exact ⟨halike, hfound.trans hsearch.1, hlistings.trans hsearch.2.1,
    hended.trans hsearch.2.2⟩

end OverlayGateway.Overlay
