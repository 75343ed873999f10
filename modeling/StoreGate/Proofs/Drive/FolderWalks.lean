import StoreGate.Proofs.Drive.FolderTrees
/-!
# Walking the pages of a folder

A walk reads the pages of a folder one after another and visits their entries.  If the visits give
what is met below the entries, the walk gives what is met below the folder, as soon as its budget
allows for every page.
-/

namespace StoreGate

variable {World Entry Page α : Type} {steady : World → Prop} {deep : Failure}
  {shows : List String → Entry → List α}

theorem verdict_append (first second : List (Sight Entry)) :
    verdict deep shows (first ++ second) = (do
      let found ← verdict deep shows first
      let others ← verdict deep shows second
      return found ++ others) := by
  unfold verdict
  rw [List.findSome?_append]
  cases first.findSome? (Sight.failure? deep) with
  | some failure => rfl
  | none =>
      cases second.findSome? (Sight.failure? deep) with
      | some failure => rfl
      | none => simp only [Option.or_none, List.flatMap_append]; rfl

theorem verdict_entry (place : List String) (entry : Entry) (rest : List (Sight Entry)) :
    verdict deep shows (.entry place entry :: rest) =
      (verdict deep shows rest).map (shows place entry ++ ·) := by
  unfold verdict
  rw [List.findSome?_cons_of_isNone rfl]
  cases rest.findSome? (Sight.failure? deep) <;> rfl

theorem gives_collect {visit : Entry → Action World (List α)} {meets : Entry → List (Sight Entry)}
    {members : List Entry} (visited : ∀ member ∈ members,
      (visit member).Gives steady (verdict deep shows (meets member))) :
    (Action.collect visit members).Gives steady (verdict deep shows (members.flatMap meets)) := by
  induction members with
  | nil => exact Action.leads_pure []
  | cons first rest ih =>
      rw [List.flatMap_cons, verdict_append]
      refine (visited first List.mem_cons_self).bind fun found => ?_
      refine (ih fun member isMember => visited member (List.mem_cons_of_mem _ isMember)).bind ?_
      exact fun others => Action.leads_pure (found ++ others)

/-- The pages of a folder are read to their end, or to the failure that ends them. -/
theorem gives_overPages {fetch : Option String → Action World Page}
    {answer : Option String → Outcome Page} {next? : Page → Option String}
    {entries : Page → List Entry} {visit : Entry → Action World (List α)}
    {meets : Entry → List (Sight Entry)} {contents : Contents Entry} {token : Option String}
    (place : List String) (follow : Contents.Follow answer next? entries token contents)
    (answered : ∀ token, (fetch token).Gives steady (Action.resultOf (answer token)))
    (visited : ∀ entry ∈ contents.entries,
      (visit entry).Gives steady (verdict deep shows (meets entry)))
    {budget : Nat} (enough : contents.requests ≤ budget) :
    (Action.overPages fetch next? (fun page => Action.collect visit (entries page)) budget
      token).Gives steady (verdict deep shows
        (contents.entries.flatMap meets ++ contents.fault.toList.map (Sight.fault place))) := by
  -- The budget shrinks by one with each request, so it covers the pages that are left.
  induction follow generalizing budget with
  | @fault token failure failed =>
      have fetched := answered token
      rw [failed] at fetched
      cases budget with
      | zero => cases enough
      | succ budget => exact fetched.bind_error
  | @last token page found ends =>
      have fetched := answered token
      rw [found] at fetched
      cases budget with
      | zero => cases enough
      | succ budget =>
          have all : (⟨[entries page], none⟩ : Contents Entry).entries = entries page :=
            List.flatten_singleton
          rw [all] at visited ⊢
          refine fetched.bind_ok ?_
          rw [ends, Option.toList_none, List.map_nil, List.append_nil, bind_pure]
          exact gives_collect visited
  | @more token page further pages fault found named rest ih =>
      have fetched := answered token
      rw [found] at fetched
      cases budget with
      | zero => exact absurd enough (by simp [Contents.requests])
      | succ budget =>
          have all : (⟨entries page :: pages, fault⟩ : Contents Entry).entries =
              entries page ++ (⟨pages, fault⟩ : Contents Entry).entries := List.flatten_cons
          rw [all] at visited ⊢
          have fewer : (⟨pages, fault⟩ : Contents Entry).requests ≤ budget := by
            simp only [Contents.requests, List.length_cons] at enough ⊢
            omega
          refine fetched.bind_ok ?_
          rw [named, List.flatMap_append, List.append_assoc, verdict_append]
          refine (gives_collect fun entry member =>
            visited entry (List.mem_append_left _ member)).bind fun others => ?_
          refine (ih (fun entry member => visited entry (List.mem_append_right _ member))
            fewer).bind fun rest => ?_
          exact Action.leads_pure (others ++ rest)

/-- The path of what the names lead to, from the folder where they begin. -/
def pathOf : List String → String
  | [] => ""
  | first :: rest => "/" ++ "/".intercalate (first :: rest)

theorem pathOf_append (place : List String) (name : String) :
    pathOf (place ++ [name]) = pathOf place ++ "/" ++ name := by
  cases place with
  | nil => simp [pathOf]
  | cons first rest =>
      rw [List.cons_append, pathOf, ← List.cons_append, String.intercalate_append_of_ne_nil
        (List.cons_ne_nil _ _) (List.cons_ne_nil _ _), String.intercalate_singleton, pathOf]
      simp only [String.append_assoc]

theorem pathOf_eq (place : List String) (name : String) :
    pathOf (place ++ [name]) = "/" ++ "/".intercalate (place ++ [name]) := by
  cases place <;> rfl

end StoreGate
