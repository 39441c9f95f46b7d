import ServerLogin.Main
import ServerLogin.Proofs.CommandLine.Grammar
import ServerLogin.Proofs.Conversion
import ServerLogin.Proofs.Credentials.Calls
import ServerLogin.Proofs.Credentials.History
import ServerLogin.Proofs.Credentials.WrittenPort
import ServerLogin.Proofs.FrontEnds
import ServerLogin.Proofs.Layers
import ServerLogin.Proofs.Override
import ServerLogin.Proofs.PortResolution
import ServerLogin.Proofs.Profile.Interruption
import ServerLogin.Proofs.Profile.RoundTrip
import ServerLogin.Proofs.RawArguments.Comment
import ServerLogin.Proofs.RawArguments.Credentials
import ServerLogin.Proofs.RawArguments.Precedence
import ServerLogin.Proofs.RawArguments.RoundTrip
import ServerLogin.Proofs.Reload
import ServerLogin.Proofs.Secrecy.Options
import ServerLogin.Proofs.Secrecy.Run
import ServerLogin.Proofs.Secrecy.Twins
import ServerLogin.Proofs.Secrecy.Variables
import ServerLogin.Proofs.Server.Calls
import ServerLogin.Proofs.Server.Hostname
import ServerLogin.Proofs.Server.StalePort
import ServerLogin.Proofs.Summary
import ServerLogin.Proofs.Url.Authority
import ServerLogin.Proofs.Url.WrittenPort
import ServerLogin.Proofs.Log.Run
import ServerLogin.Proofs.Number.Single
import ServerLogin.Proofs.Program
