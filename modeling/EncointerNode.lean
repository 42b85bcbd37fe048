import EncointerNode.Stdlib.InstanceFilter
import EncointerNode.Stdlib.Command
import EncointerNode.Stdlib.Chunks
import EncointerNode.Stdlib.Fs
import EncointerNode.Stdlib.Hex
import EncointerNode.Stdlib.Json
import EncointerNode.Stdlib.JsonText
import EncointerNode.Stdlib.Panicking
import EncointerNode.Stdlib.Slices
import EncointerNode.Stdlib.Process
import EncointerNode.Stdlib.Collections
import EncointerNode.Stdlib.Integers
import EncointerNode.Client.Identifiers
import EncointerNode.Runtime.Proxy
import EncointerNode.TrustedSetup.Ceremony
import EncointerNode.TrustedSetup.Verify
import EncointerNode.TrustedSetup.Contribute
import EncointerNode.TrustedSetup.Run
import EncointerNode.Ceremonies.Api
import EncointerNode.Ceremonies.Meetups
import EncointerNode.Ceremonies.Stats
import EncointerNode.Ceremonies.CeremonyIndex
import EncointerNode.Ceremonies.Attestees
import EncointerNode.Ceremonies.Reputables
import EncointerNode.TrustedSetup.Script
import EncointerNode.Communities.NewCommunity
import EncointerNode.Core.Listen
import EncointerNode.Democracy.Electorate
import EncointerNode.OfflinePayment.Payment
import EncointerNode.Ceremonies.Registration
