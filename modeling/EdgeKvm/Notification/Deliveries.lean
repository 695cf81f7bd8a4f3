import EdgeKvm.Notification.Link
import EdgeKvm.Notification.Progress
import EdgeKvm.Lib.Feed

/-!
# What the frames on the way deliver

The frames towards a replica, read as full snapshots and acknowledgements. The frames of a
snapshot count once its end is there; the ones before may already be staged by the receiver.
-/

namespace EdgeKvm.Notification

open EdgeKvm.Lib

/-- What reaches the store of a replica. -/
inductive Delivery where
  | snapshot (epoch : String) (records : List NotificationRecord)
  | ack (sequence : Nat)

/-- The staged snapshot after a frame. -/
def stage (staged : Option (String × List NotificationRecord)) :
    NotificationSync → Option (String × List NotificationRecord)
  | .snapshotStart epoch => some (epoch, [])
  | .record record => staged.map fun (epoch, records) => (epoch, records ++ [record])
  | .snapshotEnd => none
  | _ => staged

/-- What a frame delivers at once. -/
def arrives (staged : Option (String × List NotificationRecord)) :
    NotificationSync → List Delivery
  | .snapshotEnd => staged.toList.map fun (epoch, records) => .snapshot epoch records
  | .ack sequence => [.ack sequence]
  | _ => []

/-- What the frames deliver in order. -/
def deliveries (staged : Option (String × List NotificationRecord)) :
    List NotificationSync → List Delivery
  | [] => []
  | frame :: frames => arrives staged frame ++ deliveries (stage staged frame) frames

/-- The message a delivery is to a replica with the operations `pending`. -/
def Delivery.message (pending : List NotificationOperation) : Delivery → FeedMessage Progress
  | .snapshot _ records => .whole (progress records)
  | .ack sequence =>
    .part ((Keyed.lookup NotificationOperation.sequence sequence pending).elim ⊥
      NotificationOperation.progress)

/-- The epoch and the records once all snapshots have arrived. -/
def settled (current : String × List NotificationRecord) :
    List Delivery → String × List NotificationRecord
  | [] => current
  | .snapshot epoch records :: ds => settled (epoch, records) ds
  | .ack _ :: ds => settled current ds

variable {staged : Option (String × List NotificationRecord)} {frames : List NotificationSync}
  {sequence : Nat}

theorem deliveries_append (frames frames' : List NotificationSync) :
    deliveries staged (frames ++ frames') =
      deliveries staged frames ++ deliveries (frames.foldl stage staged) frames' := by
  induction frames generalizing staged with
  | nil => rfl
  | cons frame frames ih => simp [deliveries, ih]

theorem deliveries_records (epoch : String) (before records : List NotificationRecord)
    (frames : List NotificationSync) :
    deliveries (some (epoch, before)) (records.map .record ++ frames) =
      deliveries (some (epoch, before ++ records)) frames := by
  induction records generalizing before with
  | nil => simp
  | cons record records ih =>
    simp only [List.map_cons, List.cons_append, deliveries, arrives, stage, Option.map_some,
      List.nil_append]
    rw [ih, List.append_assoc, List.singleton_append]

@[simp] theorem deliveries_snapshot (staged : Option (String × List NotificationRecord))
    (store : Store) :
    deliveries staged (NotificationLink.snapshot store) =
      [.snapshot store.epoch store.records] := by
  simp only [NotificationLink.snapshot, deliveries, arrives, stage, List.nil_append]
  rw [deliveries_records]
  rfl

@[simp] theorem deliveries_ack (staged : Option (String × List NotificationRecord)) :
    deliveries staged [.ack sequence] = [.ack sequence] := rfl

theorem deliveries_push_snapshot (store : Store) :
    deliveries staged (frames ++ NotificationLink.snapshot store) =
      deliveries staged frames ++ [.snapshot store.epoch store.records] := by
  rw [deliveries_append, deliveries_snapshot]

theorem deliveries_push_ack :
    deliveries staged (frames ++ [.ack sequence]) = deliveries staged frames ++ [.ack sequence] :=
  by rw [deliveries_append, deliveries_ack]

/-- An acknowledgement is delivered only when its frame is there. -/
theorem ack_of_deliveries (delivered : .ack sequence ∈ deliveries staged frames) :
    .ack sequence ∈ frames := by
  induction frames generalizing staged with
  | nil => simp [deliveries] at delivered
  | cons frame frames ih =>
    rcases List.mem_append.mp delivered with now | later
    · cases frame <;> simp_all [arrives]
    · exact List.mem_cons_of_mem _ (ih later)

theorem settled_append_snapshot (current : String × List NotificationRecord) (ds : List Delivery)
    (epoch : String) (records : List NotificationRecord) :
    settled current (ds ++ [.snapshot epoch records]) = (epoch, records) := by
  induction ds generalizing current with
  | nil => rfl
  | cons d ds ih => cases d <;> exact ih _

theorem settled_append_ack (current : String × List NotificationRecord) (ds : List Delivery) :
    settled current (ds ++ [.ack sequence]) = settled current ds := by
  induction ds generalizing current with
  | nil => rfl
  | cons d ds ih => cases d <;> exact ih _

/-- Without a snapshot on the way the replica stays as it is, with one it does not matter how
    it is now. -/
theorem settled_cases (ds : List Delivery) :
    (∀ current, settled current ds = current) ∨
      ∀ current current', settled current ds = settled current' ds := by
  induction ds with
  | nil => exact .inl fun _ => rfl
  | cons d ds ih =>
    cases d with
    | snapshot epoch records => exact .inr fun _ _ => rfl
    | ack sequence => exact ih

end EdgeKvm.Notification
