import Facet.Face.Solid
import Facet.FrameClock
import Facet.Input.KeyCode
import Facet.Log.Filter
import Facet.Proofs.BodyStreams
import Facet.Proofs.BodyVertices
import Facet.Proofs.BufferLedger
import Facet.Proofs.ClosedSurface
import Facet.Proofs.ConvexFaces
import Facet.Proofs.EarSweep
import Facet.Proofs.EarWinding
import Facet.Proofs.FaceLists
import Facet.Proofs.FailedCalls
import Facet.Proofs.FloatBinade
import Facet.Proofs.ForwardSteps
import Facet.Proofs.HighWater
import Facet.Proofs.InputHistory
import Facet.Proofs.KeyToggles
import Facet.Proofs.MeasuredEdges
import Facet.Proofs.MeshUniforms
import Facet.Proofs.NormalCheck
import Facet.Proofs.ObjectLifetimes
import Facet.Proofs.OrbitRange
import Facet.Proofs.PartialMap
import Facet.Proofs.PointerTravel
import Facet.Proofs.RecordCollection
import Facet.Proofs.RecordImage
import Facet.Proofs.RegistryOrder
import Facet.Proofs.ScalarRounding
import Facet.Proofs.SharedTriangles
import Facet.Proofs.SpecialValues
import Facet.Proofs.SurfaceCalls
import Facet.Proofs.TraceBudget
import Facet.Proofs.TracedBuffers
import Facet.Proofs.Triangulation
import Facet.Proofs.UniformFields
import Facet.Proofs.UniformMirror
import Facet.Proofs.UniformPlacement
import Facet.Proofs.VectorRounding
import Facet.Proofs.ViewerLedger
import Facet.Proofs.ViewerRun
import Facet.Session
import Facet.Trace.Shader
