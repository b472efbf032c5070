namespace Reckoner.Session

variable {State Request Reply : Type} (serve : State → Request → Reply × State)

def serveAll (state : State) : List Request → List (Reply × State)
  | [] => []
  | request :: requests =>
      let answered := serve state request
      answered :: serveAll answered.2 requests

def leave (state : State) (requests : List Request) : State :=
  requests.foldl (fun current request => (serve current request).2) state

theorem leave_append (state : State) (before behind : List Request) :
    leave serve state (before ++ behind) = leave serve (leave serve state before) behind :=
  List.foldl_append

theorem length_serveAll (state : State) (requests : List Request) :
    (serveAll serve state requests).length = requests.length := by
  induction requests generalizing state with
  | nil => rfl
  | cons request requests ih => simp [serveAll, ih]

theorem serveAll_append (state : State) (before behind : List Request) :
    serveAll serve state (before ++ behind) =
      serveAll serve state before ++ serveAll serve (leave serve state before) behind := by
  induction before generalizing state with
  | nil => rfl
  | cons request before ih => simp [serveAll, leave, ih]

theorem getElem?_serveAll (state : State) (before behind : List Request) (request : Request) :
    (serveAll serve state (before ++ request :: behind))[before.length]? =
      some (serve (leave serve state before) request) := by
  rw [serveAll_append,
    List.getElem?_append_right (Nat.le_of_eq (length_serveAll serve state before)),
    length_serveAll, Nat.sub_self]
  rfl

end Reckoner.Session
