import Sentinel.Shared.Json

/-!
# The browser

Navigation and text extraction as the Playwright adapter does them, one call at a time.

* `extractFields_keys` — whatever the page answers, only fields with a selector come back
* `exec_extractFields` — on a page that answers each selector by itself, the result is `readPage`
-/

namespace Sentinel

open Lib

inductive BrowserOp
  | launch
  | newPage
  | goto (url : String)
  /-- `locator.count()` of the first match. -/
  | count (selector : String)
  | textContent (selector : String)
  /-- The PNG image, already encoded in base 64. -/
  | screenshot
  | close
deriving DecidableEq, Repr

abbrev BrowserPort : Signature where
  Op := BrowserOp
  Ans
    | .launch | .newPage | .goto _ | .close => Unit
    | .count _ => Nat
    | .textContent _ => Option String
    | .screenshot => String

abbrev BrowserProg := Prog BrowserPort PyError

namespace PlaywrightBrowser

abbrev perform (op : BrowserOp) : BrowserProg (BrowserPort.Ans op) :=
  @Prog.perform BrowserPort PyError op

/-- One round of the loop over `selectors.items()`. -/
def extractField (extracted : Dict String String) (field : String × String) :
    BrowserProg (Dict String String) := do
  let count ← perform (.count field.2)
  if count = 0 then
    return extracted
  else
    let textContent ← perform (.textContent field.2)
    return extracted.set field.1 (strip (textContent.getD ""))

def extractWithSelectors (selectors : Dict String String) : BrowserProg (Dict String String) :=
  selectors.entries.foldlM extractField Dict.empty

/-- Open `url` in a fresh browser, run `read` there and close the browser. -/
def onPage {α : Type} (url : String) (read : BrowserProg α) : BrowserProg α := do
  perform .launch
  Prog.ensuring (do
    perform .newPage
    perform (.goto url)
    read) (perform .close)

def extractFields (url : String) (selectors : Dict String String) :
    BrowserProg (Dict String String) :=
  onPage url (extractWithSelectors selectors)

def captureScreenshot (url : String) : BrowserProg String :=
  onPage url (perform .screenshot)

/-! ## any answers -/

section Answers

variable {S : Type}
  {sem : (op : BrowserPort.Op) → S → Except PyError (BrowserPort.Ans op) → S → Prop} {s s' : S}

theorem extractField_keys {acc r : Dict String String} {field : String × String}
    (h : Prog.Evals sem (extractField acc field) s (.ok r) s') :
    ∀ k ∈ r.keys, k = field.1 ∨ k ∈ acc.keys := by
  unfold extractField at h
  rw [Prog.evals_bind_ok] at h
  obtain ⟨n, m, -, h⟩ := h
  split at h
  · rw [Prog.pure_eq, Prog.evals_ret] at h
    cases h.1
    exact fun k hk => Or.inr hk
  · rw [Prog.evals_bind_ok] at h
    obtain ⟨t, m', -, h⟩ := h
    rw [Prog.pure_eq, Prog.evals_ret] at h
    cases h.1
    exact fun k hk => Dict.mem_keys_set.mp hk

theorem extractWithSelectors_keys {selectors r : Dict String String}
    (h : Prog.Evals sem (extractWithSelectors selectors) s (.ok r) s') :
    ∀ k ∈ r.keys, k ∈ selectors.keys := by
  refine Prog.Evals.foldlM (J := fun r => ∀ k ∈ r.keys, k ∈ selectors.keys) ?_ h (by simp)
  intro acc field s r s' hmem hacc hround k hk
  rcases extractField_keys hround k hk with rfl | hk
  · exact List.mem_map_of_mem hmem
  · exact hacc k hk

/-- **Only fields with a selector come back**, whatever the page does. -/
theorem extractFields_keys {url : String} {selectors r : Dict String String}
    (h : Prog.Evals sem (extractFields url selectors) s (.ok r) s') :
    ∀ k ∈ r.keys, k ∈ selectors.keys := by
  unfold extractFields onPage at h
  rw [Prog.evals_bind_ok] at h
  obtain ⟨_, m, -, h⟩ := h
  obtain ⟨m', h⟩ := Prog.Evals.of_ensuring_ok h
  rw [Prog.evals_bind_ok] at h
  obtain ⟨_, m, -, h⟩ := h
  rw [Prog.evals_bind_ok] at h
  obtain ⟨_, m, -, h⟩ := h
  exact extractWithSelectors_keys h

end Answers

/-! ## a page -/

/-- A page: for each selector the text of its first match, if there is a match. -/
abbrev Page := String → Option (Option String)

/-- Calls against a page, from which `image` is the screenshot. -/
def pageStep (page : Page) (image : String) : (op : BrowserPort.Op) → Unit →
    Except PyError (BrowserPort.Ans op) × Unit
  | .launch, s | .newPage, s | .goto _, s | .close, s => (.ok (), s)
  | .count selector, s => (.ok (if (page selector).isSome then 1 else 0), s)
  | .textContent selector, s => (.ok ((page selector).getD none), s)
  | .screenshot, s => (.ok image, s)

/-- The text a selector yields on a page. -/
def fieldText (page : Page) (selector : String) : Option String :=
  (page selector).map fun text => strip (text.getD "")

def readField (page : Page) (extracted : Dict String String) (field : String × String) :
    Dict String String :=
  match fieldText page field.2 with
  | none => extracted
  | some text => extracted.set field.1 text

/-- What a page yields for a map of selectors. -/
def readPage (page : Page) (selectors : Dict String String) : Dict String String :=
  selectors.entries.foldl (readField page) Dict.empty

theorem get?_readField (page : Page) (d : Dict String String) (field : String × String)
    (k : String) : (readField page d field).get? k =
      ((if k = field.1 then fieldText page field.2 else none).or (d.get? k)) := by
  unfold readField
  cases fieldText page field.2 with
  | none => simp
  | some text => by_cases h : k = field.1 <;> simp [h]

theorem get?_foldl_readField (page : Page) {l : List (String × String)}
    (hl : (l.map Prod.fst).Nodup) (d : Dict String String) (k : String) :
    (l.foldl (readField page) d).get? k =
      ((l.lookup k).bind (fieldText page)).or (d.get? k) := by
  induction l generalizing d with
  | nil => simp
  | cons e l ih =>
    obtain ⟨a, b⟩ := e
    simp only [List.map_cons, List.nodup_cons] at hl
    rw [List.foldl_cons, ih hl.2, get?_readField]
    by_cases hka : k = a
    · subst hka
      have hnone : l.lookup k = none := by
        rw [List.lookup_eq_none_iff]
        intro e he
        have hne : k ≠ e.1 := fun hc => hl.1 (hc ▸ List.mem_map_of_mem he)
        simpa using hne
      simp [hnone]
    · rw [Dict.lookup_cons_ne hka, if_neg hka]
      simp

/-- **Each field is read by itself.** -/
@[simp] theorem get?_readPage (page : Page) (selectors : Dict String String) (k : String) :
    (readPage page selectors).get? k = (selectors.get? k).bind (fieldText page) := by
  unfold readPage
  rw [get?_foldl_readField page selectors.nodup, Dict.get?_empty, Option.or_none]
  rfl

section Exec

variable {page : Page} {image : String}

theorem exec_extractField (d : Dict String String) (field : String × String) :
    (extractField d field).exec (pageStep page image) () = (.ok (readField page d field), ()) := by
  unfold extractField readField fieldText
  rw [Prog.exec_bind, Prog.exec_perform]
  cases h : page field.2 with
  | none => simp [pageStep, h]
  | some text =>
    simp only [pageStep, h, Option.isSome_some, if_true]
    rw [if_neg Nat.one_ne_zero, Prog.exec_bind, Prog.exec_perform]
    simp [pageStep, h]

theorem exec_extractWithSelectors (selectors : Dict String String) :
    (extractWithSelectors selectors).exec (pageStep page image) () =
      (.ok (readPage page selectors), ()) := by
  unfold extractWithSelectors readPage
  generalize Dict.empty = d
  induction selectors.entries generalizing d with
  | nil => rfl
  | cons e l ih =>
    rw [List.foldlM_cons, Prog.exec_bind, exec_extractField]
    exact ih _

theorem exec_onPage {α : Type} {url : String} {read : BrowserProg α} {a : α}
    (h : read.exec (pageStep page image) () = (.ok a, ())) :
    (onPage url read).exec (pageStep page image) () = (.ok a, ()) := by
  unfold onPage
  rw [Prog.exec_bind, Prog.exec_perform]
  show Prog.exec (pageStep page image) (Prog.ensuring _ _) _ = _
  have hbody : (do perform .newPage; perform (.goto url); read : BrowserProg α).exec
      (pageStep page image) () = (.ok a, ()) := h
  rw [Prog.exec_ensuring, hbody, Prog.exec_perform]
  rfl

theorem exec_extractFields (url : String) (selectors : Dict String String) :
    (extractFields url selectors).exec (pageStep page image) () =
      (.ok (readPage page selectors), ()) :=
  exec_onPage (exec_extractWithSelectors selectors)

theorem exec_captureScreenshot (url : String) :
    (captureScreenshot url).exec (pageStep page image) () = (.ok image, ()) :=
  exec_onPage rfl

end Exec

end PlaywrightBrowser

end Sentinel
