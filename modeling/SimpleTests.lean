import SimpleTests.SigpipeTransparency
import SimpleTests.SigpipeMain
import SimpleTests.SigpipeMask
import SimpleTests.SigpipeAccount
import SimpleTests.SigpipeRefinement
import SimpleTests.SigpipeScope
import SimpleTests.SigpipeWait
import SimpleTests.SigpipeDrain
import SimpleTests.ResourceLedger
import SimpleTests.SelectServerDescriptors
import SimpleTests.SelectServerRound
import SimpleTests.SelectServerTimeout
import SimpleTests.SelectServerEcho
import SimpleTests.SelectServerPrivacy
import SimpleTests.SelectServerProgress
import SimpleTests.SelectServerProtocol
import SimpleTests.IndexSafety
import SimpleTests.UseSelectDescriptors
import SimpleTests.UseSelectErrno
import SimpleTests.UseSelectStream
import SimpleTests.UseSelectProtocol
import SimpleTests.SendSsdp
import SimpleTests.MappedServer
import SimpleTests.UncheckedCalls
import SimpleTests.InterfaceList
import SimpleTests.PipeRedirect
import SimpleTests.PortArgument
import SimpleTests.DescriptorLeak
import SimpleTests.MockCaller
import SimpleTests.PeerIdentity
import SimpleTests.StrIntMap
