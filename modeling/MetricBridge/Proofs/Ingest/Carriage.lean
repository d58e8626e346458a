/-
# What the connections of a link carry

Payloads are sent over a link one at a time, by whoever holds it, and the network does what it
likes: a connection that was kept is found broken or not, a new one can be opened or not, and a
payload arrives as a whole, in part, or is given up half way. What each call does to the link is
noted as a passage, and a passage obeys a few rules that say all that can happen in it.

From these it follows for any number of calls that a connection is retired once, and for good, when
a payload did not get through it or it was found broken. So what a connection has received is a
row of whole payloads, and at most the last thing on it is cut off.
-/

import Mathlib
import MetricBridge.Ingest.Link

namespace MetricBridge

/-- A payload that is to be sent, and what the network does meanwhile. -/
structure Call where
  conditions : Conditions
  payload : List UInt8

/-- The bytes of a payload that arrive. -/
def Transmission.arriving (payload : List UInt8) : Transmission → List UInt8
  | .complete => payload
  | .failed sent _ | .timedOut sent | .abandoned sent => payload.take sent

theorem Transmission.arriving_prefix (payload : List UInt8) (transmission : Transmission) :
    transmission.arriving payload <+: payload := by
  cases transmission with
  | complete => exact List.prefix_refl payload
  | _ => exact List.take_prefix _ _

namespace Link

/-- What a connection has received. -/
def bytes (link : Link) (connection : Nat) : List UInt8 :=
  link.received.getD connection []

/-- No connection is kept, or the one that is kept is found broken. -/
def NeedsOpening (link : Link) (conditions : Conditions) : Prop :=
  link.kept = none ∨ conditions.isSeenBroken = true

/-- An attempt to open a connection succeeds. -/
def CanOpen (link : Link) (conditions : Conditions) : Prop :=
  addressProblem? link.address = none ∧ conditions.opening = .opened

instance (link : Link) (conditions : Conditions) : Decidable (link.NeedsOpening conditions) :=
  inferInstanceAs (Decidable (_ ∨ _))

instance (link : Link) (conditions : Conditions) : Decidable (link.CanOpen conditions) :=
  inferInstanceAs (Decidable (_ ∧ _))

/-- The connection that a payload is handed to: the one that is kept, or a new one if there has to
be a new one and it can be opened. -/
def carrier? (link : Link) (conditions : Conditions) : Option Nat :=
  if link.NeedsOpening conditions then
    if link.CanOpen conditions then some link.received.length else none
  else link.kept

/-- A connection that is kept is one of those that were opened. -/
def IsSound (link : Link) : Prop :=
  ∀ connection ∈ link.kept, connection < link.received.length

/-- The connection was opened, and is not kept any more. -/
def IsRetired (link : Link) (connection : Nat) : Prop :=
  connection < link.received.length ∧ link.kept ≠ some connection

/-! ### Sending one payload -/

theorem bytes_deliver {link : Link} {connection : Nat} (hopen : connection < link.received.length)
    (more : List UInt8) (other : Nat) :
    (link.deliver connection more).bytes other =
      link.bytes other ++ if connection = other then more else [] := by
  simp only [bytes, deliver, List.getD_eq_getElem?_getD, List.getElem?_modify]
  by_cases hsame : connection = other
  · subst hsame
    simp [hopen]
  · simp [hsame]

/-- An empty connection at the end is not to be told from none. -/
theorem bytes_append_nil (link : Link) (other : Nat) :
    bytes { link with received := link.received ++ [[]] } other = link.bytes other := by
  simp only [bytes, List.getD_eq_getElem?_getD]
  rcases lt_or_ge other link.received.length with hlt | hge
  · rw [List.getElem?_append_left hlt]
  · rw [List.getElem?_append_right hge, List.getElem?_eq_none hge]
    rcases Nat.eq_zero_or_pos (other - link.received.length) with hzero | hpos
    · rw [hzero]
      rfl
    · rw [List.getElem?_eq_none (show 1 ≤ _ from hpos)]

/-- The caller is told that a payload was sent exactly if all of it arrived, and then the
connection is kept. -/
theorem transmit_eq (link : Link) (connection : Nat) (payload : List UInt8)
    (transmission : Transmission) :
    ∃ result, (result = .sent ↔ transmission = .complete) ∧
      link.transmit connection payload transmission =
        (result, { link.deliver connection (transmission.arriving payload) with
          kept := if transmission = .complete then some connection else link.kept }) := by
  cases transmission <;> exact ⟨_, by simp, rfl⟩

theorem connect_of_canOpen (link : Link) {conditions : Conditions}
    (hopens : link.CanOpen conditions) :
    link.connect conditions.opening =
      (.ok link.received.length, { link with received := link.received ++ [[]] }) := by
  simp only [connect, hopens.1, hopens.2]

theorem connect_of_not_canOpen (link : Link) {conditions : Conditions}
    (hfails : ¬ link.CanOpen conditions) :
    ∃ result, result ≠ .sent ∧ link.connect conditions.opening = (.error result, link) := by
  unfold connect
  cases haddress : addressProblem? link.address with
  | some reason => exact ⟨_, by simp, rfl⟩
  | none =>
    cases hopening : conditions.opening with
    | opened => exact absurd ⟨haddress, hopening⟩ hfails
    | _ => exact ⟨_, by simp, rfl⟩

/-- Without a carrier nothing happens but that the broken connection is let go. -/
theorem send_of_carrier_eq_none {link : Link} {conditions : Conditions}
    (hcarrier : link.carrier? conditions = none) (payload : List UInt8) :
    ∃ result, result ≠ .sent ∧
      link.send conditions payload = (result, { link with kept := none }) := by
  have hneeds : link.NeedsOpening conditions := by
    by_contra hkept
    rw [carrier?, if_neg hkept] at hcarrier
    exact hkept (Or.inl hcarrier)
  have hfails : ¬ link.CanOpen conditions := by
    intro hopens
    rw [carrier?, if_pos hneeds, if_pos hopens] at hcarrier
    cases hcarrier
  obtain ⟨result, hresult, hconnect⟩ :=
    connect_of_not_canOpen { link with kept := none } hfails
  have husable : (if conditions.isSeenBroken then none else link.kept) = none := by
    rcases hneeds with hnone | hbroken
    · simp [hnone]
    · simp [hbroken]
  refine ⟨result, hresult, ?_⟩
  simp only [send, husable, hconnect]

/-- The link with a connection for the next payload: the one that is kept, or a new one. -/
def prepared (link : Link) (conditions : Conditions) : Link :=
  { link with
    kept := none
    received := link.received ++ if link.NeedsOpening conditions then [[]] else [] }

@[simp]
theorem bytes_prepared (link : Link) (conditions : Conditions) (other : Nat) :
    (link.prepared conditions).bytes other = link.bytes other := by
  unfold prepared
  split_ifs
  · exact bytes_append_nil { link with kept := none } other
  · rw [List.append_nil]
    rfl

theorem send_of_carrier_eq_some {link : Link} {conditions : Conditions} {connection : Nat}
    (hcarrier : link.carrier? conditions = some connection) (payload : List UInt8) :
    link.send conditions payload =
      (link.prepared conditions).transmit connection payload conditions.transmission := by
  unfold carrier? at hcarrier
  split_ifs at hcarrier with hneeds hopens
  · have husable : (if conditions.isSeenBroken then none else link.kept) = none := by
      rcases hneeds with hnone | hbroken
      · simp [hnone]
      · simp [hbroken]
    have hconnect := connect_of_canOpen { link with kept := none } hopens
    obtain rfl : link.received.length = connection := by simpa using hcarrier
    simp only [send, husable, hconnect, prepared, if_pos hneeds]
  · have husable : (if conditions.isSeenBroken then none else link.kept) = some connection := by
      have hintact : conditions.isSeenBroken = false := by
        simpa using fun hbroken => hneeds (Or.inr hbroken)
      simp [hintact, hcarrier]
    simp only [send, husable, prepared, if_neg hneeds, List.append_nil]

/-- A payload is handed to a connection that is there. -/
theorem IsSound.carrier_lt {link : Link} (hsound : link.IsSound) {conditions : Conditions}
    {connection : Nat} (hcarrier : link.carrier? conditions = some connection) :
    connection < (link.prepared conditions).received.length := by
  unfold carrier? at hcarrier
  unfold prepared
  split_ifs at hcarrier with hneeds hopens
  · obtain rfl : link.received.length = connection := by simpa using hcarrier
    simp [hneeds]
  · simpa [hneeds] using hsound connection hcarrier

/-- What is retired carries nothing more. -/
theorem IsRetired.carrier_ne {link : Link} {connection : Nat}
    (hretired : link.IsRetired connection) (conditions : Conditions) :
    link.carrier? conditions ≠ some connection := by
  obtain ⟨hopened, hkept⟩ := hretired
  unfold carrier?
  split_ifs
  · simpa using hopened.ne'
  · simp
  · exact hkept

end Link

/-! ### Passages -/

/-- What one call did to a link. -/
structure Passage where
  before : Link
  call : Call
  result : SendResult
  after : Link

namespace Passage

/-- The passage of a call. -/
def ofCall (link : Link) (call : Call) : Passage :=
  let (result, after) := link.send call.conditions call.payload
  ⟨link, call, result, after⟩

/-- The connection that the payload was handed to. -/
def carrier? (passage : Passage) : Option Nat :=
  passage.before.carrier? passage.call.conditions

/-- The bytes that arrived, if the payload was handed to a connection. -/
def arrived (passage : Passage) : List UInt8 :=
  passage.call.conditions.transmission.arriving passage.call.payload

/-- The passage makes a connection unusable: its payload did not get through, or the connection was
found broken. -/
def Retires (passage : Passage) (connection : Nat) : Prop :=
  passage.carrier? = some connection ∧ passage.result ≠ .sent ∨
    passage.before.kept = some connection ∧ passage.call.conditions.isSeenBroken = true

/-- The rules that every call obeys. -/
structure Regular (passage : Passage) : Prop where
  /-- A payload is handed to one connection at most, and once; the others receive nothing. -/
  handed : ∀ connection, passage.after.bytes connection = passage.before.bytes connection ++
    if passage.carrier? = some connection then passage.arrived else []
  arrived_prefix : passage.arrived <+: passage.call.payload
  /-- The caller is told that the payload was sent exactly if it was handed to a connection and
  transmitted to the end. -/
  sent_iff : passage.result = .sent ↔
    passage.carrier? ≠ none ∧ passage.call.conditions.transmission = .complete
  arrived_of_sent : passage.result = .sent → passage.arrived = passage.call.payload
  /-- The connection is kept exactly then. -/
  kept : passage.after.kept = if passage.result = .sent then passage.carrier? else none
  /-- A connection is opened exactly if none is kept or the one that is kept is found broken, as
  far as it can be opened. -/
  opened : passage.after.received.length = passage.before.received.length +
    if passage.before.NeedsOpening passage.call.conditions ∧
      passage.before.CanOpen passage.call.conditions then 1 else 0
  isSound : passage.after.IsSound

variable {link : Link}

theorem regular_ofCall (hsound : link.IsSound) (call : Call) : (ofCall link call).Regular := by
  obtain ⟨conditions, payload⟩ := call
  have hprefix := conditions.transmission.arriving_prefix payload
  cases hcarrier : link.carrier? conditions with
  | none =>
    obtain ⟨result, hresult, hsend⟩ := Link.send_of_carrier_eq_none hcarrier payload
    have hpassage : ofCall link ⟨conditions, payload⟩ =
        ⟨link, ⟨conditions, payload⟩, result, { link with kept := none }⟩ := by
      rw [ofCall, hsend]
    have hfails : ¬ (link.NeedsOpening conditions ∧ link.CanOpen conditions) := by
      rintro ⟨hneeds, hopens⟩
      rw [Link.carrier?, if_pos hneeds, if_pos hopens] at hcarrier
      cases hcarrier
    rw [hpassage]
    constructor
    case handed => simp [carrier?, hcarrier, Link.bytes]
    case arrived_prefix => exact hprefix
    case sent_iff => simp [carrier?, hcarrier, hresult]
    case arrived_of_sent => exact fun hsent => absurd hsent hresult
    case kept => simp [hresult]
    case opened => rw [if_neg hfails, Nat.add_zero]
    case isSound => simp [Link.IsSound]
  | some connection =>
    obtain ⟨result, hresult, htransmit⟩ :=
      (link.prepared conditions).transmit_eq connection payload conditions.transmission
    have hpassage : ofCall link ⟨conditions, payload⟩ = ⟨link, ⟨conditions, payload⟩, result,
        ((link.prepared conditions).transmit connection payload conditions.transmission).2⟩ := by
      rw [ofCall, Link.send_of_carrier_eq_some hcarrier, htransmit]
    have hlt := hsound.carrier_lt hcarrier
    rw [hpassage, htransmit]
    constructor
    case handed =>
      intro other
      have hbytes := Link.bytes_deliver hlt (conditions.transmission.arriving payload) other
      rw [Link.bytes_prepared] at hbytes
      simpa [carrier?, hcarrier, arrived, Link.bytes] using hbytes
    case arrived_prefix => exact hprefix
    case sent_iff => simp [carrier?, hcarrier, hresult]
    case arrived_of_sent =>
      intro hsent
      simp [arrived, hresult.1 hsent, Transmission.arriving]
    case kept => simp [carrier?, hcarrier, hresult, Link.prepared]
    case opened =>
      by_cases hneeds : link.NeedsOpening conditions
      · have hopens : link.CanOpen conditions := by
          by_contra hfails
          rw [Link.carrier?, if_pos hneeds, if_neg hfails] at hcarrier
          cases hcarrier
        simp [Link.deliver, Link.prepared, hneeds, hopens]
      · simp [Link.deliver, Link.prepared, hneeds]
    case isSound =>
      intro kept hkept
      have hsame : kept = connection := by
        by_cases hcomplete : conditions.transmission = .complete
        · simpa [hcomplete] using hkept.symm
        · simp [hcomplete, Link.prepared] at hkept
      simpa [hsame, Link.deliver] using hlt

variable {passage : Passage} {connection : Nat}

theorem Regular.length_le (hregular : passage.Regular) :
    passage.before.received.length ≤ passage.after.received.length :=
  hregular.opened ▸ Nat.le_add_right _ _

/-- A connection that a passage makes unusable is retired after it. -/
theorem Regular.isRetired_of_retires (hregular : passage.Regular)
    (hsound : passage.before.IsSound) (hretires : passage.Retires connection) :
    passage.after.IsRetired connection := by
  rcases hretires with ⟨hcarrier, hresult⟩ | ⟨hkept, hbroken⟩
  · have hlet : passage.after.kept = none := by rw [hregular.kept, if_neg hresult]
    refine ⟨?_, by simp [hlet]⟩
    rw [carrier?, Link.carrier?] at hcarrier
    split_ifs at hcarrier with hneeds hopens
    · obtain rfl : passage.before.received.length = connection := by simpa using hcarrier
      rw [hregular.opened, if_pos ⟨hneeds, hopens⟩]
      exact Nat.lt_succ_self _
    · exact lt_of_lt_of_le (hsound connection hcarrier) hregular.length_le
  · have hopened : connection < passage.before.received.length := hsound connection hkept
    have hneeds : passage.before.NeedsOpening passage.call.conditions := Or.inr hbroken
    refine ⟨lt_of_lt_of_le hopened hregular.length_le, ?_⟩
    rw [hregular.kept, carrier?, Link.carrier?, if_pos hneeds]
    split_ifs
    · simpa using hopened.ne'
    · simp
    · simp

/-- A retired connection carries nothing and stays retired. -/
theorem Regular.isRetired (hregular : passage.Regular)
    (hretired : passage.before.IsRetired connection) :
    passage.carrier? ≠ some connection ∧ passage.after.IsRetired connection ∧
      passage.after.bytes connection = passage.before.bytes connection := by
  have hcarrier : passage.carrier? ≠ some connection := hretired.carrier_ne _
  refine ⟨hcarrier, ⟨lt_of_lt_of_le hretired.1 hregular.length_le, ?_⟩, ?_⟩
  · rw [hregular.kept]
    split_ifs
    · exact hcarrier
    · simp
  · rw [hregular.handed, if_neg hcarrier, List.append_nil]

end Passage

/-! ### Any number of calls -/

namespace Link

/-- The passages of some calls, in their order. -/
def passages (link : Link) : List Call → List Passage
  | [] => []
  | call :: rest =>
    let passage := Passage.ofCall link call
    passage :: passage.after.passages rest

/-- The link after some calls. -/
def run (link : Link) : List Call → Link
  | [] => link
  | call :: rest => (Passage.ofCall link call).after.run rest

variable {link : Link}

theorem IsSound.regular (hsound : link.IsSound) (calls : List Call) :
    ∀ passage ∈ link.passages calls, passage.Regular := by
  induction calls generalizing link with
  | nil => simp [passages]
  | cons call rest ih =>
    have hregular := Passage.regular_ofCall hsound call
    exact List.forall_mem_cons.2 ⟨hregular, ih hregular.isSound⟩

/-- What is retired receives nothing from then on. -/
theorem IsRetired.passages {connection : Nat} (hretired : link.IsRetired connection)
    (hsound : link.IsSound) (calls : List Call) :
    (∀ passage ∈ link.passages calls, passage.carrier? ≠ some connection ∧
      passage.after.bytes connection = link.bytes connection) ∧
      (link.run calls).bytes connection = link.bytes connection := by
  induction calls generalizing link with
  | nil => exact ⟨by simp [Link.passages], rfl⟩
  | cons call rest ih =>
    have hregular := Passage.regular_ofCall hsound call
    obtain ⟨hcarrier, hstill, hsame⟩ := hregular.isRetired hretired
    obtain ⟨hlater, hend⟩ := ih hstill hregular.isSound
    rw [hsame] at hlater hend
    exact ⟨List.forall_mem_cons.2 ⟨⟨hcarrier, hsame⟩, hlater⟩, hend⟩

theorem IsSound.pairwise_passages (hsound : link.IsSound) (calls : List Call) :
    (link.passages calls).Pairwise fun earlier later => ∀ connection, earlier.Retires connection →
      later.carrier? ≠ some connection ∧
        later.after.bytes connection = earlier.after.bytes connection := by
  induction calls generalizing link with
  | nil => exact List.Pairwise.nil
  | cons call rest ih =>
    have hregular := Passage.regular_ofCall hsound call
    refine List.pairwise_cons.2 ⟨?_, ih hregular.isSound⟩
    intro later hlater connection hretires
    have hretired := hregular.isRetired_of_retires hsound hretires
    exact (hretired.passages hregular.isSound rest).1 later hlater

/-- What comes over a connection are the payloads of the calls that were told so, in their order,
and perhaps a part of one more. -/
theorem IsSound.exists_whole (hsound : link.IsSound) (calls : List Call) (connection : Nat) :
    ∃ (whole : List Passage) (cut : Option Passage),
      (link.passages calls).filter (fun passage => passage.carrier? = some connection) =
        whole ++ cut.toList ∧
      (∀ passage ∈ whole, passage.result = .sent) ∧ (∀ passage ∈ cut, passage.result ≠ .sent) ∧
      (link.run calls).bytes connection = link.bytes connection ++
        (whole.flatMap (fun passage => passage.call.payload) ++
          cut.toList.flatMap Passage.arrived) := by
  induction calls generalizing link with
  | nil => exact ⟨[], none, rfl, by simp, by simp, by simp [run]⟩
  | cons call rest ih =>
    have hregular := Passage.regular_ofCall hsound call
    set passage := Passage.ofCall link call with hpassage
    have hpassages : link.passages (call :: rest) = passage :: passage.after.passages rest := rfl
    have hrun : link.run (call :: rest) = passage.after.run rest := rfl
    have hbytes : passage.after.bytes connection = link.bytes connection ++
        if passage.carrier? = some connection then passage.arrived else [] :=
      hregular.handed connection
    rw [hpassages, hrun]
    by_cases hcarrier : passage.carrier? = some connection
    · rw [if_pos hcarrier] at hbytes
      rw [List.filter_cons_of_pos (by simpa using hcarrier)]
      by_cases hresult : passage.result = .sent
      · -- The payload arrived as a whole, and the connection may go on.
        obtain ⟨whole, cut, hcarried, hwhole, hcut, hend⟩ := ih hregular.isSound
        refine ⟨passage :: whole, cut, by rw [hcarried]; rfl,
          List.forall_mem_cons.2 ⟨hresult, hwhole⟩, hcut, ?_⟩
        rw [hend, hbytes, hregular.arrived_of_sent hresult, List.flatMap_cons]
        simp only [List.append_assoc]
      · -- The connection is retired, so no later payload is handed to it.
        have hretired := hregular.isRetired_of_retires hsound (Or.inl ⟨hcarrier, hresult⟩)
        obtain ⟨hlater, hend⟩ := hretired.passages hregular.isSound rest
        have hnone : (passage.after.passages rest).filter
            (fun passage => passage.carrier? = some connection) = [] :=
          List.filter_eq_nil_iff.2 fun later hmem => by simpa using (hlater later hmem).1
        refine ⟨[], some passage, by rw [hnone]; rfl, by simp, by simpa using hresult, ?_⟩
        rw [hend, hbytes]
        simp
    · rw [if_neg hcarrier, List.append_nil] at hbytes
      rw [List.filter_cons_of_neg (by simpa using hcarrier), ← hbytes]
      exact ih hregular.isSound

/-- However the network behaves, every call obeys the rules. A connection that a payload did not
get through, or that was found broken, receives nothing from then on. So what each connection has
received are the payloads that were sent over it, in their order and each as a whole, and behind
them at most what arrived of one that was not. -/
theorem passages_start (address : String) (calls : List Call) :
    let passages := (start address).passages calls
    (∀ passage ∈ passages, passage.Regular) ∧
      (passages.Pairwise fun earlier later => ∀ connection, earlier.Retires connection →
        later.carrier? ≠ some connection ∧
          later.after.bytes connection = earlier.after.bytes connection) ∧
      ∀ connection, ∃ (whole : List Passage) (cut : Option Passage),
        passages.filter (fun passage => passage.carrier? = some connection) =
          whole ++ cut.toList ∧
        (∀ passage ∈ whole, passage.result = .sent) ∧ (∀ passage ∈ cut, passage.result ≠ .sent) ∧
        ((start address).run calls).bytes connection =
          whole.flatMap (fun passage => passage.call.payload) ++
            cut.toList.flatMap Passage.arrived := by
  have hsound : (start address).IsSound := by simp [IsSound, start]
  refine ⟨hsound.regular calls, hsound.pairwise_passages calls, ?_⟩
  intro connection
  exact hsound.exists_whole calls connection

end Link

end MetricBridge
