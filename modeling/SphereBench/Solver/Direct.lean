import SphereBench.Contact.Response
import SphereBench.Solver.Basic
/-!
# The direct solver

One response per contact, in the order of the contacts. Each response sees the spheres as the
earlier ones left them.
-/

namespace SphereBench
variable {K : Type} [Scalar K]

/-- The spheres after the response to each contact, in order. -/
@[specialize] def Contact.respondEach (spheres : List (Sphere K)) (contacts : List (Contact K))
    (params : SolverParameters K) : List (Sphere K) :=
  contacts.foldl (fun spheres c => c.updateBodies spheres (c.respond params.restitution)) spheres

end SphereBench
