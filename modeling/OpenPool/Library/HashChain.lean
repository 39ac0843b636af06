import Mathlib.Data.List.Forall2
import Mathlib.Data.List.Chain
import Mathlib.Data.List.Induction

/-! # Hash chains

A chain is a list of links. Each link stores the hash of its predecessor and its own
hash, which is the digest of its body together with the stored predecessor. -/

namespace HashChain

variable {Link Hash Body : Type*} (previous own : Link → Hash) (digest : Link → Hash → Hash)

/-- `Chained start links`: the first link follows `start`, every later one the link before it. -/
def Chained : Hash → List Link → Prop
  | _, [] => True
  | start, link :: links =>
      previous link = start ∧ own link = digest link start ∧ Chained (own link) links

/-- The hash a chain ends with. -/
def head (start : Hash) (links : List Link) : Hash :=
  links.foldl (fun _ link => own link) start

@[simp] theorem chained_nil (start : Hash) : Chained previous own digest start [] := trivial

@[simp] theorem chained_cons (start : Hash) (link : Link) (links : List Link) :
    Chained previous own digest start (link :: links) ↔
      previous link = start ∧ own link = digest link start ∧
        Chained previous own digest (own link) links := Iff.rfl

@[simp] theorem head_nil (start : Hash) : head own start ([] : List Link) = start := rfl

@[simp] theorem head_cons (start : Hash) (link : Link) (links : List Link) :
    head own start (link :: links) = head own (own link) links := rfl

@[simp] theorem head_concat (start : Hash) (links : List Link) (link : Link) :
    head own start (links ++ [link]) = own link := by
  simp [head]

theorem head_eq_getLast (start : Hash) (links : List Link) (h : links ≠ []) :
    head own start links = own (links.getLast h) := by
  induction links using List.reverseRecOn with
  | nil => exact absurd rfl h
  | append_singleton front last => simp

theorem chained_append (start : Hash) (front back : List Link) :
    Chained previous own digest start (front ++ back) ↔
      Chained previous own digest start front ∧
        Chained previous own digest (head own start front) back := by
  induction front generalizing start with
  | nil => simp
  | cons link front ih => simp [ih, and_assoc]

theorem chained_concat (start : Hash) (links : List Link) (link : Link) :
    Chained previous own digest start (links ++ [link]) ↔
      Chained previous own digest start links ∧
        previous link = head own start links ∧
          own link = digest link (head own start links) := by
  simp [chained_append]

/-- The links chain exactly when the first follows `start`, each later one its neighbour, and
each stores its own digest. -/
theorem chained_iff (start : Hash) (links : List Link) :
    Chained previous own digest start links ↔
      (∀ link ∈ links.head?, previous link = start) ∧
        links.IsChain (fun a b => previous b = own a) ∧
          ∀ link ∈ links, own link = digest link (previous link) := by
  induction links generalizing start with
  | nil => simp
  | cons link links ih =>
      simp only [chained_cons, ih, List.isChain_cons, List.forall_mem_cons, List.head?_cons,
        Option.mem_some_iff, forall_eq']
      constructor
      · rintro ⟨rfl, hown, hhead, hchain, hrest⟩
        exact ⟨rfl, ⟨hhead, hchain⟩, hown, hrest⟩
      · rintro ⟨rfl, ⟨hhead, hchain⟩, hown, hrest⟩
        exact ⟨rfl, hown, hhead, hchain, hrest⟩

/-- Every link of a chain is the digest of its body with the predecessor it stores. -/
theorem Chained.own_eq {start : Hash} {links : List Link}
    (h : Chained previous own digest start links) :
    ∀ link ∈ links, own link = digest link (previous link) := by
  induction links generalizing start with
  | nil => simp
  | cons link links ih =>
      obtain ⟨hprevious, hown, hrest⟩ := h
      intro other hmem
      rcases List.mem_cons.mp hmem with rfl | hmem
      · rw [hown, hprevious]
      · exact ih hrest other hmem

/-- Two chains of one length that end in the same hash agree link by link, provided
equal digests of their links come from equal bodies and equal predecessors. -/
theorem Chained.binding (body : Link → Body) {s t : Hash} {xs ys : List Link}
    (hx : Chained previous own digest s xs) (hy : Chained previous own digest t ys)
    (hlength : xs.length = ys.length) (hhead : head own s xs = head own t ys)
    (hbind : ∀ x ∈ xs, ∀ y ∈ ys, digest x (previous x) = digest y (previous y) →
      body x = body y ∧ previous x = previous y) :
    List.Forall₂ (fun x y => body x = body y ∧ previous x = previous y ∧ own x = own y) xs ys := by
  induction xs using List.reverseRecOn generalizing ys with
  | nil =>
      cases ys with
      | nil => exact .nil
      | cons y ys => simp at hlength
  | append_singleton xs x ih =>
      obtain rfl | ⟨ys, y, rfl⟩ := List.eq_nil_or_concat' ys
      · simp at hlength
      have hown : own x = own y := by simpa using hhead
      have hdigest : digest x (previous x) = digest y (previous y) := by
        rw [← hx.own_eq _ _ _ x (by simp), ← hy.own_eq _ _ _ y (by simp), hown]
      obtain ⟨hbody, hprevious⟩ := hbind x (by simp) y (by simp) hdigest
      rw [chained_concat] at hx hy
      have hfront := ih hx.1 hy.1 (by simpa using hlength)
        (by rw [← hx.2.1, ← hy.2.1, hprevious])
        (fun a ha b hb => hbind a (by simp [ha]) b (by simp [hb]))
      exact List.rel_append hfront (.cons ⟨hbody, hprevious, hown⟩ .nil)

end HashChain
