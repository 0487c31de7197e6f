import RequestRouter.Proofs.Path
import RequestRouter.Proofs.Target
import RequestRouter.Routing.Dispatch

/-!
# Redirects to canonical paths

A request whose path is not canonical is redirected to the canonical form of the path, which is sent as a
target again. No target has a query or a fragment in its path, and a canonical path starts with one slash,
so it is neither read as a scheme and a host nor cut: it is the path that was meant, on the same host.

* `Router.decide_eq_redirect`: which requests are redirected, and where to.
* `Target.parse_clean`, `Request.new_clean`: the canonical form of a path is a target that has nothing
  else.
* `redirect_once`: **a redirect leads to a path that is not redirected**, and not to another host.
-/

namespace RequestRouter

/-- The canonical form of a path is a target that has nothing else. -/
theorem Target.parse_clean (target : String) :
    parse (Path.clean (parse target).path) =
      { scheme := "", host := "", path := Path.clean (parse target).path, query := "" } := by
  refine parse_rooted ?_ ?_
  · obtain ⟨rest, hrest, -⟩ := Path.clean_rooted (parse target).path
    rw [hrest]
    rfl
  · have hslash : Avoids pathMarks ['/'] := by decide
    have hmarks : Avoids pathMarks ('/' :: (parse target).path.toList) :=
      avoids_append.2 ⟨hslash, (avoids_parse target).2⟩
    rw [Path.toList_clean]
    exact hmarks.subset (Path.subset_cleanChars _)

theorem Request.new_clean (method method' : Method) (target : String) :
    Request.new method' (Path.clean (Request.new method target).path) =
      { method := method', scheme := "", host := "",
        path := Path.clean (Request.new method target).path
        query := .empty, headers := .empty, body := .empty, vars := .empty } := by
  have hparse := Target.parse_clean target
  have hpath : (Request.new method target).path = (Target.parse target).path := rfl
  rw [hpath, Request.new, hparse]
  rfl

namespace Router

variable {router : Router} {request : Request} {path location : String}

/-- **Which requests are redirected**: those whose path is not canonical, to its canonical form. -/
theorem decide_eq_redirect : (router.decide request).1 = .redirect path location ↔
    path = request.path ∧ location = Path.clean request.path ∧ location ≠ path := by
  unfold decide
  constructor
  · intro h
    dsimp only at h
    split at h
    · rename_i hne
      cases h
      exact ⟨rfl, rfl, hne⟩
    · dsimp only at h
      split at h
      · cases h
      · split at h <;> cases h
  · rintro ⟨rfl, rfl, hne⟩
    rw [if_pos hne]

/-- **A redirect leads to a path that is not redirected.** A target whose path is not canonical is
answered with status 301 and a location that starts with one slash. Sent as a target, with any method, it
has no scheme, no host and no query, its path is all of it, and no router redirects it again. -/
theorem redirect_once (router : Router) (method : Method) (target path location : String)
    (h : (router.decide (Request.new method target)).1 = .redirect path location) :
    ((router.handle (Request.new method target)).status = 301 ∧
        (router.handle (Request.new method target)).headers.get? "Location" = some location) ∧
      ("/".toList <+: location.toList ∧ ¬"//".toList <+: location.toList) ∧
      Path.clean location = location ∧
      ∀ method' : Method,
        (Request.new method' location).scheme = "" ∧ (Request.new method' location).host = "" ∧
        (Request.new method' location).query = .empty ∧
        (Request.new method' location).path = location ∧
        ∀ (router' : Router) (path' location' : String),
          (router'.decide (Request.new method' location)).1 ≠ .redirect path' location' := by
  obtain ⟨-, rfl, -⟩ := decide_eq_redirect.1 h
  refine ⟨?_, ?_, Path.clean_clean _, fun method' => ?_⟩
  · rw [handle, h, Decision.response]
    exact ⟨rfl, rfl⟩
  · obtain ⟨rest, hrest, hslash⟩ := Path.clean_rooted (Request.new method target).path
    rw [hrest]
    refine ⟨⟨rest, rfl⟩, ?_⟩
    rintro ⟨tail, htail⟩
    cases htail
    exact hslash rfl
  · rw [Request.new_clean]
    refine ⟨rfl, rfl, rfl, rfl, fun router' path' location' hagain => ?_⟩
    obtain ⟨rfl, rfl, hne⟩ := decide_eq_redirect.1 hagain
    exact hne (Path.clean_clean _)

/-- A path with dots, slashes too many and a colon, before a query and a fragment. -/
theorem redirect_once_of_dots :
    (empty.decide (Request.new .get "../a//b:/./c?d=/e#f")).1 =
        .redirect "../a//b:/./c" "/a/b:/c" ∧
      ∀ method : Method, (Request.new method "/a/b:/c").path = "/a/b:/c" := by
  have h : (empty.decide (Request.new .get "../a//b:/./c?d=/e#f")).1 =
      .redirect "../a//b:/./c" "/a/b:/c" :=
    decide_eq_redirect.2 ⟨by decide +kernel, by decide +kernel, by decide +kernel⟩
  obtain ⟨-, -, -, hagain⟩ := redirect_once empty .get _ _ _ h
  exact ⟨h, fun method => (hagain method).2.2.2.1⟩

end Router

end RequestRouter
