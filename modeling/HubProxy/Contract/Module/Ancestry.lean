/-!
# The order of ancestors

A class is looked through before its bases, and its bases in the order given; the orders of the
bases themselves are kept. `merge` puts several orders together so that all of them are kept, if
that can be done.
-/

namespace HubProxy.ContractModule

/-- Whether something stands in no order behind the head. -/
def isFree [BEq α] (orders : List (List α)) (x : α) : Bool :=
  orders.all fun order => !(order.drop 1).contains x

/-- The orders without something at their heads. -/
def advance [BEq α] (orders : List (List α)) (x : α) : List (List α) :=
  orders.map fun order => if order.head? == some x then order.drop 1 else order

/-- An order that keeps all of several ones, or the heads at which there is none. The first argument
bounds the number of steps; the orders together have no more entries. -/
def merge [BEq α] : Nat → List (List α) → Except (List α) (List α)
  | 0, _ => .ok []
  | steps + 1, orders =>
    match orders.filterMap List.head? with
    | [] => .ok []
    | heads =>
      match heads.find? (isFree orders) with
      -- every head is kept back by an order in which something comes before it
      | none => .error heads.eraseDups
      | some x => do return x :: (← merge steps (advance orders x))

end HubProxy.ContractModule
