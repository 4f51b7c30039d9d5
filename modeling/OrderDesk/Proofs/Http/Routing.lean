import OrderDesk.Http.Route

/-!
Which requests a route answers: those with its method and its path, where a line end after the path
may not count.
-/

namespace OrderDesk.Http.Route

def method : Route → String
  | createOrder | cancelOrder _ | adminPayOrder _ | adminCancelOrder _ | adminRefundOrder _
  | paymentCallback => "POST"
  | updateSecurity => "PATCH"
  | _ => "GET"

def parts : Route → List String
  | health => ["health"]
  | ready => ["health", "ready"]
  | live => ["health", "live"]
  | createOrder | listOrders => ["orders"]
  | getOrder id => ["orders", id]
  | cancelOrder id => ["orders", id, "cancel"]
  | accountBalance => ["account", "balance"]
  | adminListOrders => ["admin", "orders"]
  | adminGetOrder id => ["admin", "orders", id]
  | adminPayOrder id => ["admin", "orders", id, "pay"]
  | adminCancelOrder id => ["admin", "orders", id, "cancel"]
  | adminRefundOrder id => ["admin", "orders", id, "refund"]
  | readSecurity | updateSecurity => ["admin", "security"]
  | paymentCallback => ["payments", "callback"]
  | partnerOrder id => ["thirdparty", "orders", id]
  | partnerBalance id => ["thirdparty", "users", id, "balance"]
  | metrics => ["metrics"]
  | root => [""]

def path (route : Route) : List Char :=
  route.parts.flatMap fun part => '/' :: part.toList

theorem prefix_path {route : Route} {first : String} {rest : List String} {area : List Char}
    (starts : route.parts = first :: rest) (spelled : area = '/' :: first.toList) :
    area <+: route.path := by
  rw [path, starts, List.flatMap_cons, spelled]
  exact List.prefix_append _ _

theorem of_mem_ofSegments {segments : List String} {name : String} {route : Route}
    (member : (name, route) ∈ ofSegments segments) :
    name = route.method ∧ segments = route.parts := by
  unfold ofSegments at member
  split at member
  -- Two paths have two methods each.
  case h_4 | h_13 =>
    simp only [List.mem_cons, Prod.mk.injEq, List.not_mem_nil, or_false] at member
    rcases member with ⟨rfl, rfl⟩ | ⟨rfl, rfl⟩ <;> exact ⟨rfl, rfl⟩
  case h_19 => cases member
  all_goals
    rcases Prod.mk.inj (List.mem_singleton.mp member) with ⟨rfl, rfl⟩
    exact ⟨rfl, rfl⟩

theorem flatMap_slash {first : List Char} {rest : List (List Char)} :
    (first :: rest).flatMap ('/' :: ·) = '/' :: ['/'].intercalate (first :: rest) := by
  induction rest generalizing first with
  | nil => simp
  | cons second rest induction =>
    rw [List.flatMap_cons, induction, List.intercalate_cons_cons]
    simp

theorem path_of_segments {text : List Char} {route : Route} (split : segments text = route.parts) :
    text = route.path := by
  unfold segments at split
  split at split
  · next rest =>
    rw [path, ← split, List.flatMap_map]
    simp only [String.toList_ofList]
    have whole : ['/'].intercalate (rest.splitOn '/') = rest := List.intercalate_splitOn '/'
    cases apart : rest.splitOn '/' with
    | nil => exact absurd apart (List.splitOn_ne_nil _ _)
    | cons first others => rw [flatMap_slash, ← apart, whole]
  · cases route <;> cases split

theorem of_mem_ofPathText {text : List Char} {name : String} {route : Route}
    (member : (name, route) ∈ ofPathText text) : name = route.method ∧ text = route.path := by
  dsimp only [ofPathText] at member
  split at member
  · cases member
  · rcases of_mem_ofSegments member with ⟨named, split⟩
    exact ⟨named, path_of_segments split⟩

theorem of_mem_ofPath {text name : String} {route : Route} (member : (name, route) ∈ ofPath text) :
    name = route.method ∧ (text.toList = route.path ∨ text.toList = route.path ++ ['\n']) := by
  dsimp only [ofPath] at member
  split at member
  · next known =>
    rcases of_mem_ofPathText member with ⟨named, spelled⟩
    rw [Bool.and_eq_true, beq_iff_eq] at known
    rcases List.getLast?_eq_some_iff.mp known.2 with ⟨front, whole⟩
    refine ⟨named, .inr ?_⟩
    rw [← spelled, whole, List.dropLast_concat]
  · rcases of_mem_ofPathText member with ⟨named, spelled⟩
    exact ⟨named, .inl spelled⟩

/-- A request that is answered by a route has the method and the path of the route. -/
theorem of_resolve_found {name text : String} {route : Route}
    (found : resolve name text = .found route) :
    name = route.method ∧ (text.toList = route.path ∨ text.toList = route.path ++ ['\n']) := by
  rw [resolve] at found
  cases looked : (ofPath text).find? (·.1 == name) with
  | none =>
    simp only [looked] at found
    split at found
    · cases found
    · split at found <;> cases found
  | some answering =>
    simp only [looked] at found
    rcases Match.found.inj found with rfl
    have same : answering.1 = name := by simpa using List.find?_some looked
    exact of_mem_ofPath (same ▸ List.mem_of_find?_eq_some looked)

example : resolve "GET" "/orders/7" = .found (.getOrder "7") ∧
    resolve "GET" "/health\n" = .found .health := by decide +kernel

end OrderDesk.Http.Route
