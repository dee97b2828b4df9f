import SmcKeys.Connection
import SmcKeys.Proofs.Calls

/-! A ledger of what is demanded of a service, kept beside a state. Nobody reads it. -/

namespace SmcKeys

open Operation (calls)

inductive Demand where
  | opening
  | calling (number : UInt32) (call : Call)
  | closing (number : UInt32)

structure Ledger (τ : Type) where
  demands : List Demand
  controller : τ

/-- A way to put a ledger beside a state, and to tell the two apart again. -/
structure Audit (σ ρ : Type) where
  audited : List Demand → σ → ρ
  unaudited : ρ → σ
  demands : ρ → List Demand
  unaudited_audited : ∀ kept s, unaudited (audited kept s) = s
  demands_audited : ∀ kept s, demands (audited kept s) = kept
  audited_unaudited : ∀ r, audited (demands r) (unaudited r) = r

theorem Connection.owned_of_acquire {service : Service σ} {s t : σ} {connection : Connection}
    (h : acquire service s = (.ok connection, t)) : connection.owned = true := by
  rw [acquire] at h
  split at h
  · cases h
    rfl
  · cases h

namespace Audit

attribute [simp] unaudited_audited demands_audited audited_unaudited

variable (audit : Audit σ ρ)

/-- Does what is done to a state, and adds to its ledger. -/
def adding (more : α → List Demand) (act : σ → α × σ) (r : ρ) : α × ρ :=
  let (result, s) := act (audit.unaudited r)
  (result, audit.audited (audit.demands r ++ more result) s)

theorem adding_of_eq (more : α → List Demand) {act : σ → α × σ} {r : ρ} {result : α} {s : σ}
    (h : act (audit.unaudited r) = (result, s)) :
    audit.adding more act r = (result, audit.audited (audit.demands r ++ more result) s) := by
  rw [adding, h]

def service (service : Service σ) : Service ρ where
  openNumber := audit.adding (fun _ => [.opening]) service.openNumber
  closeNumber number := audit.adding (fun _ => [.closing number]) (service.closeNumber number)
  call number selector request :=
    audit.adding (fun reply => [.calling number ⟨selector, request, reply⟩])
      (service.call number selector request)
  note event r := audit.audited (audit.demands r) (service.note event (audit.unaudited r))

def site (number : UInt32) (site : Site σ) : Site ρ where
  cache r := site.cache (audit.unaudited r)
  setCache cache r := audit.audited (audit.demands r) (site.setCache cache (audit.unaudited r))
  note event r := audit.audited (audit.demands r) (site.note event (audit.unaudited r))
  call selector request :=
    audit.adding (fun reply => [.calling number ⟨selector, request, reply⟩])
      (site.call selector request)

theorem maps_unaudited (number : UInt32) (site : Site σ) :
    (audit.site number site).Maps audit.unaudited site where
  cache _ := rfl
  setCache _ _ := (audit.unaudited_audited _ _).symm
  note _ _ := (audit.unaudited_audited _ _).symm
  call selector request r :=
    Prod.ext rfl (audit.unaudited_audited _ (site.call selector request (audit.unaudited r)).2).symm

theorem follows_demands (number : UInt32) (site : Site σ) :
    (audit.site number site).Follows audit.demands
      fun demands call => demands ++ [.calling number call] where
  setCache _ _ := audit.demands_audited _ _
  note _ _ := audit.demands_audited _ _
  call _ _ _ := audit.demands_audited _ _

theorem run (number : UInt32) (site : Site σ) (op : Operation α) (r : ρ) :
    op.run (audit.site number site) r =
      audit.adding
        (fun _ => (calls (op.trace site (audit.unaudited r))).map (.calling number))
        (op.run site) r := by
  have hmaps := audit.maps_unaudited number site
  have hdemands := (audit.follows_demands number site).run_of_append op r
  rw [← hmaps.trace] at hdemands
  have hstate : audit.unaudited (op.run (audit.site number site) r).2 =
      (op.run site (audit.unaudited r)).2 := (congrArg Prod.snd (hmaps.run op r)).symm
  refine Prod.ext (congrArg Prod.fst (hmaps.run op r)).symm ?_
  rw [← audit.audited_unaudited (op.run (audit.site number site) r).2, hdemands, hstate]
  rfl

section

variable (service : Service σ) (r : ρ)

theorem note_audited (event : Log.Event) (kept : List Demand) (s : σ) :
    (audit.service service).note event (audit.audited kept s) =
      audit.audited kept (service.note event s) := by
  change audit.audited (audit.demands _) (service.note event (audit.unaudited _)) = _
  rw [demands_audited, unaudited_audited]

theorem acquire :
    Connection.acquire (audit.service service) r =
      audit.adding (fun _ => [.opening]) (Connection.acquire service) r := by
  rcases hopened : service.openNumber (audit.unaudited r) with ⟨fault | number, s⟩
  · have haudited : (audit.service service).openNumber r =
        (.error fault, audit.audited (audit.demands r ++ [.opening]) s) :=
      audit.adding_of_eq (fun _ => [.opening]) hopened
    have hacquire : Connection.acquire service (audit.unaudited r) = (.error fault, s) := by
      rw [Connection.acquire, hopened]
    rw [Connection.acquire, haudited, audit.adding_of_eq _ hacquire]
  · have haudited : (audit.service service).openNumber r =
        (.ok number, audit.audited (audit.demands r ++ [.opening]) s) :=
      audit.adding_of_eq (fun _ => [.opening]) hopened
    have hacquire : Connection.acquire service (audit.unaudited r) =
        (.ok ⟨number, true⟩, service.note (.connectionOpened number) s) := by
      rw [Connection.acquire, hopened]
    rw [Connection.acquire, haudited, audit.adding_of_eq _ hacquire]
    exact congrArg (Prod.mk _) (audit.note_audited service _ _ _)

theorem close (connection : Connection) :
    connection.close (audit.service service) r =
      audit.adding (fun _ => [.closing connection.number]) (connection.close service) r := by
  rcases hclosed : service.closeNumber connection.number (audit.unaudited r) with ⟨fault | _, s⟩
  · have haudited : (audit.service service).closeNumber connection.number r =
        (.error fault, audit.audited (audit.demands r ++ [.closing connection.number]) s) :=
      audit.adding_of_eq (fun _ => [.closing connection.number]) hclosed
    have hclose : connection.close service (audit.unaudited r) = (.error fault, s) := by
      rw [Connection.close_eq, hclosed]
    rw [Connection.close_eq, haudited, audit.adding_of_eq _ hclose]
  · have haudited : (audit.service service).closeNumber connection.number r =
        (.ok (), audit.audited (audit.demands r ++ [.closing connection.number]) s) :=
      audit.adding_of_eq (fun _ => [.closing connection.number]) hclosed
    have hclose : connection.close service (audit.unaudited r) =
        (.ok (), service.note (.connectionClosed connection.number) s) := by
      rw [Connection.close_eq, hclosed]
    rw [Connection.close_eq, haudited, audit.adding_of_eq _ hclose]
    exact congrArg (Prod.mk _) (audit.note_audited service _ _ _)

theorem drop (number : UInt32) :
    Connection.drop (audit.service service) ⟨number, true⟩ r =
      audit.audited (audit.demands r ++ [.closing number])
        (Connection.drop service ⟨number, true⟩ (audit.unaudited r)) :=
  audit.note_audited service _ _ _

end

end Audit

end SmcKeys
