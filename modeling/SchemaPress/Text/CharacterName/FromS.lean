/-!
# Names of characters that begin with `S`

The names of characters and their aliases, in their order. Each is written as what it differs in from
the one in front of it (`SchemaPress.Text.CharacterName`).
-/

namespace SchemaPress.Text.CharacterName

/-- The names that begin with `S`. -/
def fromS : List String := [
  "aS IN TRIANGLEmAFETY PINdVESTjGITTARIUSjILBOATgKE BOTTLE AND CUPrLT SHAKERhIREeUTING FACElMARI",
  "TAN ABBREVIATION MARKrLETTER ALAFeBAAcITdDALATfFIcGAMANfINbTbYcKAAFeLABATfMIMdNUNdQUFdRISHeSHA",
  "NdINGAAThTAAFdITcSAADIYhYUTdZENkMARK DAGESHgEPENTHETIC YUToINa-ALAFhNEQUDAAhOCCLUSIONnODIFIER ",
  "LETTER EPENTHETIC YUToIbSHORT AxPUNCTUATION AFSAAQfNGEDdNAAUfRKAANUgTMAAUgBAUdMELODIC QITSAnNE",
  "QUDAAhQITSAfSHIYYAALAAjOF MASHFAATmTURUeZAEFdIQAArVOWEL SIGN AaAcEbIbLONG AaAcEbIbUgOaVERLONG ",
  "AaAlSHORT AgUKUNfUuNDWICHfS-SERIF HEAVY DOUBLE COMMA QUOTATION MARK ORNAMENT+dTURNED COMMA QUO",
  "TATION MARK ORNAMENT+rLOW DOUBLE COMMA QUOTATION MARK ORNAMENT+uINTERROBANG ORNAMENT+dRIcTELLI",
  "TEa ANTENNAoURNeURASHTRA CONSONANT SIGN HAARUuDANDAeIGIT EIGHTfFIVEdOUReNINEeONEdSEVENeIXdTHRE",
  "EeWOdZEROjOUBLE DANDAmLETTER AaAbIbUcBAbHAdCAbHAdDAbDAbHAdHAdEaEcGAbHAdHAcIaIcJAbHAdKAbHAdLAbL",
  "AdMAcNAbGAcNAcYAdOaOcPAbHAdRAcSAbHAcSAdTAbHAcTAbHAeUaUcVAbOCALIC LaLcRaRkYAjSIGN ANUSVARAiCAND",
  "RABINDUlVIRAMAeSARGAmVOWEL SIGN AAbIbUcEaEcIaIcOaOcUaUcVOCALIC LaLcRaR+cOPODgXOPHONEiCALESdRFd",
  "HOOLa SATCHELmIbOOTEReRPIONcUSgREENcWDRIVERiIPT CAPITAL BbEbFbHbIbLbMbPbRjLIGATURE ET ORNAMENT",
  "uSMALL EbGbLbOlOLLdUPLEgEALbTcCOND PLACE MEDALpTION SIGNiOReDNAdE-NO-EVIL MONKEYpDLINGgGMENTaE",
  "D DIGIT EIGHTfFIVEdOUReNINEeONEdSEVENeIXdTHREEeWOdZEROsLFIEeMICOLONfDIRECT PRODUCT WITH BOTTOM",
  " CLOSED+hSEXTILEjPARATED SYMBOLoRIOUS FACE WITH SYMBOLS COVERING MOUTH+lVICE MARKkSAME DOThQUI",
  "QUADRATEmT MINUSfTRANSMIT STATEqWING NEEDLElXTILEgGCcHADOWED WHITE CIRCLEgLATIN CROSSlSTARqLLO",
  "W PAN OF FOODqMROCKfRADA ABBREVIATION SIGNrCONTINUATION SIGNrDANDAeIGIT EIGHTfFIVEdOUReNINEeON",
  "EdSEVENeIXdTHREEeWOdZEROjOUBLE DANDAmEKAMdXTRA SHORT VOWEL MARKwHEADSTROKEkLETTER AaAbIbUcBAbH",
  "AdCAbHAdDAbDAbHAdHAdEbGAbHAdHAcIaIcJAbHAdKAbHAdLAbLAdMAcNAbGAcNAcYAdObPAbHAdRAcSAbHAcSAdTAbHAc",
  "TAbHAeUaUcVAbOCALIC LaLcRaRkYAjOMcSANDHI MARKkECTION MARK-1b2mPARATORiIGN ANUSVARAhVAGRAHAiCAN",
  "DRABINDUlINVERTED CANDRABINDUuJIHVAMULIYAlNUKTAfSIDDHAMhUPADHMANIYAlVIRAMAeSARGAlUTRA MARKkVOW",
  "EL MODIFIER MARKnSIGN AAbIbUcEbIaIcObPRISHTHAMATRA EpUaUcVOCALIC LaLcRaRzKcVED ICEgIAN LETTER ",
  "ADOcGEcHbIRcREbRAYeSHcWEdBIBdCHURCHgDEADeEARbTcGGcRRdFEEdGAGdHA-HAeUNGeIANcCEcFcJUDGEfKICKeLOL",
  "LeMEASUREgIMEeNUNdOAKcILcNbOZEdRbUTdPEEPeROAReSObUREeTHEYcIGHeOTdUPcVOWdWOEbOLeYEAbWdZOOqEEPdI",
  "ELDdFT INcOUTgNTO SHRINEkPcOCKED FACE WITH EXPLODING HEAD+dOTING STARkPPING BAGSeTROLLEYnRT BA",
  "CKSLANTED SOUTH ARROWwENT ARROW POINTING DOWNWARDS THEN NORTH EAST+tDOWN TACKa WITH OVERBARwLE",
  "FT TACKjRIGHTWARDS ARROW ABOVE LEFTWARDS ARROW+mSLANTED NORTH ARROWtUP TACKa ABOVE SHORT DOWN ",
  "TACKvWITH UNDERBARwCAKEeHAND FORMAT CONTINUING OVERLAPsDOWN STEPjLETTER OVERLAPoUP STEPtSdULDE",
  "RED OPEN BOXqWEReRIMPdUGdUFFLE PRODUCTnYcIaDDHAM DANDAeOUBLE DANDAmEND OF TEXT MARKqLETTER AaA",
  "bIbLTERNATE UkUcBAbHAdCAbHAdDAbDAbHAdHAdEbGAbHAdHAcIaIcJAbHAdKAbHAdLAcMAcNAbGAcNAcYAdObPAbHAdR",
  "AcSAbHAcSAdTAbHAbREE-CIRCLE ALTERNATE IxTAbHAdWO-CIRCLE ALTERNATE IaIxUaUcVAbOCALIC LaLcRaRkYA",
  "jREPETITION MARK-1b2b3rSECTION MARK DOUBLE RINGa WITH RAYSvWITH CIRCLES AND FOUR ENCLOSURESpRA",
  "YSeTWO ENCLOSURES+aDOUBLE CRESCENTSqQUADRUPLE CRESCENTStRAYS AND DOTTED CRESCENTSjDOUBLE CRESC",
  "ENTSqTRIPLE CRESCENTS+gSEPTUPLE CRESCENTSsTRIDENT AND DOTTED CRESCENTSqU-SHAPED ORNAMENTS+bPLE",
  " CRESCENTS+gPARATOR BARdDOTmIGN ANUSVARAiCANDRABINDUlNUKTAfSIDDHAMhVIRAMAeSARGAmVOWEL SIGN AAb",
  "IbLTERNATE UaUlUcEbIaIcObUaUcVOCALIC RaR+aEWAYS BLACK DOWN POINTING INDEXtLEFT POINTING INDEXt",
  "RIGHT POINTING INDEXuUP POINTING INDEXxWHITE DOWN POINTING INDEXtLEFT POINTING INDEXtRIGHT POI",
  "NTING INDEXuUP POINTING INDEX+eGN OF THE HORNSnWRITING AIR BLOW SMALL ROTATIONSqING OUTlSUCK S",
  "MALL ROTATIONSqING INoBREATH EXHALEgINHALElUSH BETWEENhMULTIPLEiSINGLEmCHEEKS NEUTRALhPUFFEDgS",
  "UCKEDmOLONdMMAfDREAMY EYEBROWS DOWN NEUTRALmNEUTRAL DOWNeUPkUP NEUTRALzYNAMIC ARROWHEAD LARGEf",
  "SMALLpEVERY OTHER TIMEqFASTeGRADUALhRELAXEDhSIMULTANEOUSa ALTERNATINGxLOWeTENSEnEARSdXCITEMENT",
  "jYE BLINK MULTIPLEiSINGLEmWINKfBROWS STRAIGHT DOWNeNEUTRALhUPrGAZE-FLOORPLANE CURVEDgSTRAIGHTa",
  " ALTERNATINGlDOUBLE+aWALLPLANE CIRCLINGhURVEDgSTRAIGHTa ALTERNATINGlDOUBLE+eLASHES DOWNeFLUTTE",
  "RINGkUPjS CLOSEDgHALF CLOSEDgOPENjOPENeSQUEEZEDiWIDE OPENfNING MOVEMENTwFACE DIRECTION POSITIO",
  "N NOSE FORWARD TILTINGpUP OR DOWNa TILTING+uILL MODIFIER-2b3b4b5b6nNGERfLICK LARGE MULTIPLEiSI",
  "NGLEmSEQUENTIALjMALL MULTIPLEiSINGLEqOORPLANE SHOULDER HIP MOVE+bOREHEAD CONTACThNEUTRALhWRINK",
  "LEDqULL STOPjGRASP BETWEENhMULTIPLEiSINGLEmHAIRcND-ANGLEa INDEXa MIDDLE LITTLEgRINGlRING LITTL",
  "Ea OUTpTHUMBa INcOUTpLITTLE INDEXa THUMB INDEX THUMBa OUT+bUPjMIDDLE RING LITTLEa INcOUTwRING ",
  "DOWN MIDDLE THUMB INDEX CROSS+dLITTLErCIRCLEa INDEXa BENTeHINGEfMIDDLEa CROSS LITTLEhEDhLITTLE",
  "gRINGeTHUMBmRING LITTLErLITTLE INDEXfUPjMIDDLE RING LITTLEa BENTqUPjRING LITTLErLAWa FOUR FING",
  "ERS CONJOINEDwINDEX THUMB CURVE THUMB INSIDE+eMIDDLE RING LITTLE CONJOINEDa SIDE+hNO THUMBiTHU",
  "MB FORWARDhSIDEoUPa FIVE FINGERS SPREADa OPENyINDEXa RING LITTLElTHUMBa OPENqMIDDLE RING LITTL",
  "EsNO THUMBiOPENa NO THUMBiTHUMB FORWARDhSIDEpTHUMB FORWARDhSIDEmRLICUEa INDEX RING LITTLE ONuM",
  "IDDLE RING LITTLE ONvOPENnFISTa FOUR FINGERS CONJOINED BENT+bHEELeINDEXa BENTa OVER MIDDLEqCUP",
  "PEDgHINGEDa LOWdMIDDLE UPa THUMB SIDE+bMIDDLEa BENTa THUMB STRAIGHTtCONJOINEDa CUPPEDa THUMB F",
  "ORWARDuHINGEDa THUMB SIDErINDEX BENTkMIDDLE BENTlTHUMB FORWARDhSIDEa BENTeCONJOINED+dROSS LITT",
  "LEhEDa THUMB SIDEsHINGEDa SPREAD THUMB SIDEyLITTLEgRAISED KNUCKLESoINGa BENTeCONJOINEDoSTRAIGH",
  "T THUMB BENTtTHUMBa ANGLEDa OUTkBENTeCIRCLEDgONJOINED HINGEDpUPPEDgHINGEDfOOKEDmUP SPREAD THUM",
  "B FORWARD+eRAISED KNUCKLEnING LITTLElTHUMB ANGLED IN MIDDLE UPmOUT MIDDLE UPuCIRCLEaD MIDDLE U",
  "PqUPPED MIDDLE UPoRLICUEfVE THUMB INSIDEgUNDERrFORWARD INDEX BENTeSTRAIGHTwHOOKaED MIDDLE HING",
  "EDgUPqSIDEa BOTH BENTjINDEX BENTeHINGElTHUMB BENTeCONJOINEDjDIAGONALzUP MIDDLE HINGEDa THUMB C",
  "ONJOINEDjSIDE+hLITTLE BENTeDOWNa OTHERS CIRCLEDoRIPPLE CURVEDgSTRAIGHTuINDEXa THUMBlRAISED KNU",
  "CKLEoTHUMBeOUCHES THUMBnUPjMIDDLE BENT OVER INDEXpDOWNeLITTLEgRAISED KNUCKLEnING LITTLElTHUMB ",
  "ANGLED INDEX UPiOUT INDEX CROSSEDhUPtCIRCLED INDEX HINGEDgUPpUPPED INDEX UPpHOOKED INDEX UPpLI",
  "TTLEmUPa THUMB SIDEuRING DOWNeINDEXfLITTLEgMIDDLEa CONJOINEDjRAISED KNUCKLESwRAISED KNUCKLEoTH",
  "UMBfUPhTHUMBa BETWEEN INDEX MIDDLEa STRAIGHTvMIDDLE RINGlRING LITTLEtFORWARDhHEELeOVER FOUR RA",
  "ISED KNUCKLESuTWO FINGERSqSIDE BENTeCONJOINEDjDIAGONALnUNDER FOUR FINGERSmINDEX BENTkLITTLE UP",
  "jTHREE FINGERSmWO FINGERS+bLATa BETWEEN PALM FACINGSuFIVE FINGERS SPREADa BENTeFOUR BENTjHINGE",
  "Da NO THUMBiTHUMB SIDErTHUMB FORWARD+gOUR FINGERSa BENTeCONJOINEDa SPLITpHINGEDtHEELa FIVE FIN",
  "GERS SPREADa BENTeFOUR BENT+dTHUMB SIDEpSPLIT CENTREa THUMB SIDEa BENTwINDEX THUMB SIDEqLITTLE",
  "mTHUMB BENTeFORWARDhSIDEpHINGEa FIVE FINGERS SPREAD OPENxOUR FINGERS CONJOINEDwINDEXa HINGEDgM",
  "IDDLE LITTLEgRINGa CONJOINEDvRING LITTLElTHUMBa LARGEfOPENeSIDEdMALLrLITTLEa INDEXa THUMBlTHUM",
  "BmMIDDLEa RING LITTLEsNO THUMBiOPENa NO THUMBiTHUMB FORWARDhSIDEpRINGa DOWN INDEX THUMB HOOK M",
  "IDDLE+hSMALLfTHUMB BETWEEN MIDDLE RINGtSIDEa TOUCHING INDEX+eOOKa CURLICUEiINDEX RING LITTLE I",
  "NcOUTdUNDERxMIDDLE RING LITTLE CONJOINEDa INcOUTzTHUMBmRING THUMBpOVALa FIVE FINGERS SPREADtIN",
  "DEXfLITTLE UPjNO THUMBiRING LITTLElTHUMB FORWARDhSIDEtEADa MOVEMENT CIRCLEh-FLOORPLANE CURVEfS",
  "TRAIGHTtWALLPLANE CURVEfSTRAIGHTiTILTxRIMiLIMB COMBINATIONlLENGTH-1b2b3b4b5b6b7lP LOWER OVER U",
  "PPERqUPPER OVER LOWERrS PRESSED TOGETHERuOCATION DEPTHfHEAD NECKhIGHTgLIMBS DIGITSmTORSOfWIDTH",
  "g-FLOORPLANE SPACEqWALLPLANE SPACEyMOUTH CLOSED CONTACThFORWARDhNEUTRALnORNERShFROWNa OPENeWRI",
  "NKLEDoKISSa FORWARDhWRINKLEDnOPEN CIRCLEgFORWARDhOVALa WRINKLEDiYAWNjRECTANGLEa WRINKLEDiYAWNo",
  "WRINKLEDnSMILEa OPENeWRINKLEDoTENSEa FORWARDhSUCKEDmWRINKLES DOUBLEgSINGLEtVEMENT-DIAGONAL AWA",
  "Y LARGEaSThMEDIUMgSMALLkBETWEEN AWAY LARGEaSThMEDIUMgSMALLkTOWARDS LARGEaSThMEDIUMgSMALLvTOWAR",
  "DS LARGEaSThMEDIUMgSMALLwFLOORPLANE ARM CIRCLE HITTING WALL LARGE DOUBLEgSINGLEmMEDIUM DOUBLEg",
  "SINGLEnSMALL DOUBLEgSINGLE+kBENDdOX LARGEfMEDIUMgSMALLjCHECKeORNER LARGEfMEDIUMgSMALLlROSSeURV",
  "E COMBINEDiHITTING CEILING LARGEfSMALLnFLOOR LARGEfSMALLtLARGEaSThMEDIUMgSMALLlDOUBLE ALTERNAT",
  "INGa WRIST FLEXwSTRAIGHTiWRIST FLEXrFINGER CIRCLES HITTING WALL DOUBLEgSINGLE+aONTACToHUMP HIT",
  "TING CEILING LARGE DOUBLEgTRIPLEmSMALL DOUBLEgTRIPLEuFLOOR LARGE DOUBLEmSMALL DOUBLEmTRIPLE LA",
  "RGE TRIPLEmSMALL TRIPLE+hSMALLkJAWdLOOP HITTING CEILING LARGE DOUBLEgSINGLEmSMALL DOUBLEgSINGL",
  "EuFLOOR LARGE DOUBLEgSINGLEmSMALL DOUBLEgSINGLE+aSMALLkPEAKS LARGEfMEDIUMgSMALLlSHAKING PARALL",
  "ELpINGLE STRAIGHT LARGEaSThMEDIUMgSMALLoWRIST FLEXrTRIPLE ALTERNATING MOVEMENTiWRIST FLEXwSTRA",
  "IGHT MOVEMENTrWRIST FLEXrWAVE HITTING CEILING LARGEfSMALLnFLOOR LARGEfSMALLtLARGEfSMALLeNAKEjR",
  "IST CIRCLE HITTING WALL DOUBLEgSINGLE+gZIGZAG LARGEfMEDIUMgSMALLxHINGE DOWN SEQUENTIALpSIDE TO",
  " SIDE SCISSORSvUP DOWN ALTERNATING LARGEfSMALLrLARGEfSMALLkSEQUENTIALtWALLPLANE ARM CIRCLE MED",
  "IUM DOUBLEgSINGLEnSMALL DOUBLEgSINGLExBEND LARGEfMEDIUMgSMALLjOX LARGEfMEDIUMgSMALLjCHECK LARG",
  "EfMEDIUMgSMALLkORNER LARGEfMEDIUMgROTATIONiSMALLlROSSeURVE HALF-CIRCLE LARGEaSThMEDIUMgSMALLqI",
  "TTING CHESTfFRONT WALLsQUARTER LARGEaSThMEDIUMgSMALLnTHEN STRAIGHTlREE-QUARTER CIRCLE MEDIUMgS",
  "MALL+bD CROSS MEDIUMgSMALLsDOUBLE ALTERNATINGa WRIST FLEXwSTRAIGHTiWRIST FLEXrFINGER CIRCLES D",
  "OUBLEgSINGLEnONTACToHUMP HITTING CHESTfFRONT WALLsLARGEfMEDIUMgSMALLkJAWdLOOP HITTING CHESTfFR",
  "ONT WALLsLARGEfMEDIUMgSMALLa DOUBLErPEAKS LARGEfMEDIUMgSMALLlSHAKINGgINGLE STRAIGHT LARGEaSThM",
  "EDIUMgSMALLoWRIST FLEXrTRIPLE ALTERNATINGa WRIST FLEXwSTRAIGHT MOVEMENTrWRIST FLEXrWAVE CURVE ",
  "DOUBLE LARGEfMEDIUMgSMALLmTRIPLE LARGEfMEDIUMgSMALLsDIAGONAL PATH LARGEfMEDIUMgSMALLtHITTING C",
  "HESTfFRONT WALLwRIST CIRCLE FRONT DOUBLEgSINGLEzZIGZAG LARGEfMEDIUMgSMALL+fNECKdOSE CONTACThNE",
  "UTRALhWIGGLESgRINKLESnPARENTHESISlROTATION MODIFIER-10b1b2b3b4b5b6c2b3b4b5b6b7b8b9l-FLOORPLANE",
  " ALTERNATINGa HITTING CEILINGhFLOORzDOUBLEa HITTING CEILINGhFLOORuSINGLEa HITTING CEILINGhFLOO",
  "R+fWALLPLANE ALTERNATEbING HITTING CHESTfFRONT WALL+eDOUBLEa HITTING CHESTfFRONT WALLzSINGLEa ",
  "HITTING CHESTfFRONT WALL+rUB BETWEENhMULTIPLEiSINGLEkSEMICOLONiHOULDER HIP POSITIONSjSPINEjTIL",
  "TING FROM WAIST+aQUEEZE FLICK ALTERNATINGrLARGE MULTIPLEiSINGLEmSEQUENTIALjMALL MULTIPLEiSINGL",
  "EtTRIKE BETWEENhMULTIPLEiSINGLEmURFACE BETWEENhSYMBOLSpTEETHa BITE LIPSjMOVEMENTiON LIPSa MOVE",
  "MENTnTONGUEa MOVEMENTwNSE CHEEKS HIGHeLOWdMIDDLEsONGUE CENTRE INSIDE MOUTHmSTICKING OUTtINSIDE",
  " MOUTH RELAXEDuLICKING LIPSmMOVES AGAINST CHEEKtSTICKING OUT FARqTIP BETWEEN LIPSmTOUCHING INS",
  "IDE MOUTH+eRSO-FLOORPLANE TWISTINGtWALLPLANE CURVED BENDlSTRAIGHT STRETCH+eUCH BETWEENhMULTIPL",
  "EiSINGLElRAVEL-FLOORPLANE ROTATION-FLOORPLANE ALTERNATINGlDOUBLEgSINGLErWALLPLANE ALTERNATINGl",
  "DOUBLEgSINGLEzSHAKINGsWALLPLANE ARM SPIRAL DOUBLEgSINGLEgTRIPLErROTATION-FLOORPLANE ALTERNATIN",
  "GlDOUBLEgSINGLErWALLPLANE ALTERNATINGlDOUBLEgSINGLEzSHAKINGyUPPER BODY TILTING FROM HIP JOINTS",
  "+iWALLPLANE SHOULDER HIP MOVE+lLHOUETTE OF JAPANrMILAR ABOVE GREATER-THAN ABOVE EQUALS SIGN+eL",
  "ESS-THAN ABOVE EQUALS SIGN+hMINUS SIMILARnOR GREATER-THANmLESS-THANsNE WAVEgGLE CHARACTER INTR",
  "ODUCERuGRAPHIC CHARACTER INTRODUCER+cHIGH-REVERSED-9 QUOTATION MARK+eLEFT-POINTING ANGLE QUOTA",
  "TION MARK+hOW-9 QUOTATION MARKuRIGHT-POINTING ANGLE QUOTATION MARK+jSHIFT THREEeWOk-SHIFT-2b3l",
  "HALA ARCHAIC DIGIT EIGHTfFIVEdOUReNINEeONEdSEVENeIXdTHREEeWOjNUMBER EIGHTYgFIFTYeORTYfNINETYgO",
  "NE HUNDREDhTHOUSANDmSEVENTYgIXTYfTENcHIRTYfWENTYvLETTER AAYANNAgEEYANNAgYANNAgIYANNAgLPAPRAANA",
  " BAYANNAhCAYANNAhDAYANNAgDAYANNAiGAYANNAhJAYANNAhKAYANNAhPAYANNAhTAYANNAgTAYANNAsMBA BAYANNAlU",
  "YANNAgYANNAgDANTAJA LAYANNAhNAYANNAhSAYANNApEEYANNAgYANNAgFAYANNAhHAYANNAhIIYANNAgLUUYANNAgYAN",
  "NAhRUUYANNAgYANNAhYANNAgKANTAJA NAASIKYAYAsMAHAAPRAANA BAYANNAhCAYANNAhDAYANNAgDAYANNAiGAYANNA",
  "hJAYANNAhKAYANNAhPAYANNAhTAYANNAgTAYANNAsYANNAgUURDHAJA LAYANNAhNAYANNAhSAYANNArOOYANNAgYANNAg",
  "RAYANNAhSANYAKA DAYANNAgDAYANNAiGAYANNAhJAYANNApTAALUJA NAASIKYAYAkSANYOOGA NAAKSIKYAYAsYANNAp",
  "UUYANNAgYANNAgVAYANNAhYAYANNAnITH DIGIT EIGHTfFIVEdOUReNINEeONEdSEVENeIXdTHREEeWOdZEROpPUNCTUA",
  "TION KUNDDALIYAwSIGN AL-LAKUNAiNUSVARAYAkCANDRABINDUlVISARGAYAoVOWEL SIGN AELA-PILLAkDIGA AEDA",
  "-PILLAkGAETTA-PILLAkYANUKITTAlIS-PILLAiKOMBUVAhPAA-PILLAoGAETTA-PILLAkYANUKITTAlKETTI AEDA-PIL",
  "LAkIS-PILLAiPAA-PILLAoOMBU DEKAfVAa HAA AELA-PILLAkDIGA AELA-PILLApGAYANUKITTA+oX PETALLED BLA",
  "CK AND WHITE FLORETTE+gOINTED BLACK STARkPINWHEEL STARnSTAR WITH MIDDLE DOT+d-PER-EM SPACEnTEE",
  "N POINTED ASTERISKxKATEBOARDiI AND SKI BOOTnERdULLa AND CROSSBONESrNKeLANTED EQUAL TO OR GREAT",
  "ER-THANa WITH DOT INSIDE+cLESS-THANa WITH DOT INSIDE+lNORTH ARROW WITH HOOKED HEADjRIZONTAL TA",
  "IL+lVONIC ASTERISKpEDbEPING ACCOMMODATIONnFACEeSYMBOLkY FACEiUTH OR SPYlICE OF PIZZAlGHTLY FRO",
  "WNING FACEnSMILING FACEtOPEbING LARGE ANDdORnT MACHINEiHeMALL AIRPLANEhMPERSANDiSTERISKiBLUE D",
  "IAMONDmCOLONdMMAbERCIAL ATlNTAINS AS MEMBERjWITH OVERBARhVERTICAL BAR AT END OF HORIZONTAL STR",
  "OKE++cDOLLAR SIGNlELEMENT OFa WITH OVERBARhVERTICAL BAR AT END OF HORIZONTAL STROKE++dM DASHgQ",
  "UALS SIGNkXCLAMATION MARKqFULL STOPjGREATER-THAN SIGNrHYPHEN-MINUSmIDEOGRAPHIC COMMArLEFT CURL",
  "Y BRACKETnPARENTHESISlTORTOISE SHELL BRACKETzSS-THAN SIGNoNUMBER SIGNlORANGE DIAMONDoPERCENT S",
  "IGNlLUS SIGNjQUESTION MARKnREVERSE SOLIDUSoIGHT CURLY BRACKETnPARENTHESISlTORTOISE SHELL BRACK",
  "ET+bOMAN NUMERAL EIGHTeLEVENgFIFTYdVEa HUNDREDlOUReNINEeONEa HUNDREDhTHOUSANDmSEVENeIXdTENcHRE",
  "EeWELVEeOrSEMICOLONjTILDEeWO DOTS OVER ONE DOT PUNCTUATION+hVEE WITH UNDERBARsER THANa OR EQUA",
  "L TOvSH PRODUCTlILEbING CAT FACE WITH HEART-SHAPED EYESrOPEN MOUTHyFACE WITH HALOdEART-SHAPED ",
  "EYESqORNSfOPEN MOUTHa AND COLD SWEATkSMILING EYESmTIGHTLY-CLOSED EYES+iSMILING EYESa AND HAND ",
  "COVERING MOUTHtTHREE HEARTS+cUNGLASSESkTEARtRKING FACElOKING SYMBOLnNAILcKEdEEZING FACElOW CAP",
  "PED MOUNTAINqBOARDERhFLAKEfMANa WITHOUT SNOWtOaCCER BALLiKSdFT HYPHENgICE CREAMjSHELL FLOPPY D",
  "ISKsBALLeWARE-FUNCTION SYMBOLwGDIAN COMBINING CURVE ABOVEfBELOWlDOT ABOVEfBELOWjHOOK ABOVEfBEL",
  "OWkLONG HOOK BELOWpRESH BELOWkSTROKE BELOWmTWO DOTS ABOVEfBELOWyINDEPENDENT SHINqLETTER ALEPHe",
  "YINeBETHeFETHeGIMELfHEaTHeKAPHeLAMEDHfESHeMEMdNUNdPEcRESH-AYINjSADHEdMEKHfHINeTAWdWAWdYODHeZAY",
  "INmNUMBER ONEa HUNDREDlTENcWENTYnPUNCTUATION CIRCLE WITH DOTpHALF CIRCLE WITH DOTuTWO CIRCLES ",
  "WITH DOTSrVERTICAL BARSa WITH DOTS+tHbLID QUILT SQUARE ORNAMENTa IN BLACK SQUARE+mUSa WITH OVE",
  "RBARsM SIGNgON WITH RIGHTWARDS ARROW ABOVE+eRA SOMPENG DIGIT EIGHTfFIVEdOUReNINEeONEdSEVENeIXd",
  "THREEeWOdZEROkLETTER AHcBAHdCAHdDAHdEEHcHcGAHdHAHdIHcJAHdKAHdLAHdMAEbHdNAHcGAHdYAHeOHcPAHdRAHd",
  "SAHdTAHdUHcVAHdYAHvSbUND RECORDING COPYRIGHTwTH EAST ARROWa AND SOUTH WEST ARROWuCROSSING NORT",
  "H EAST ARROWzTO CORNERjWITH HOOKpBLACK ARROWlDOUBLE ARROWmPOINTING BUDdLEAFeVINE LEAFsSANS-SER",
  "IF ARROWqTRIANGLE-HEADED ARROWa TO BAR+cWHITE ARROWqWEST ARROWa AND NORTH WEST ARROWuWITH HOOK",
  "pBLACK ARROWlDOUBLE ARROWmPOINTING BUDdLEAFeVINE LEAFsSANS-SERIF ARROWqTRIANGLE-HEADED ARROWa ",
  "TO BAR+cWHITE ARROWuYOMBO CLUSTER-INITIAL LETTER LAcRAcSAbHA+aFINAL CONSONANT SIGN -AcBbDbGbKb",
  "LbMbNaGcRbSaHxGEMINATION MARKpHEAD MARK WITH MOON AND SUNa AND FLAMEfTRIPLE FLAME+sLETTER -AcA",
  "bBAbHAdCAbHAdDAbDAbHAdHAcZAdGAbHAdHAcJAbHAdKAbHAcSSAeLAcMAcNAbGAcNAcYAdPAbHAdRAcSAbHAcSAdTAbHA",
  "cSAbHAdTAbHAeVAcYAcZAbHAkMARK DOUBLE SHADlPLUTAfSHADeTSHEGkSIGN ANUSVARAiJIHVAMULIYAlUPADHMANI",
  "YAlVISARGAlUBJOINERjTERMINAL MARK-1b2pVOWEL LENGTH MARKlSIGN AIbUcEbIbOaEcUaEcVOCALIC LbR+bPaA",
  "aCEcGHETTIgRKLEaScING HEARTnEAK-NO-EVIL MONKEYpERa WITH CANCELLATION STROKEtONE SOUND WAVEoTHR",
  "EE SOUND WAVESzING HEAD IN SILHOUETTEyECH BALLOONkDBOATgSMILO SIGNlHERICAL ANGLEa OPENING LEFT",
  "eUPyIDERa WEBhRAL CALENDAR PADmNOTE PADiSHELLkLASHING SWEAT SYMBOLuONGEdOL OF THREADlNcRTS MED",
  "ALjUTING WHALEnQUARE A OVER MhARUdMbNPEAePAATOfRUHUAfUcBAARERUfRcEETAeIRUdORUTOfQbUSSYERUiC OV",
  "ER KGiALbPcCbDbMa CUBEDfSQUAREDjOaRPORATIONkUPdDAaASUeBbESIdJbLbMa CUBEDfSQUAREDjORUeEEKAAeRA ",
  "NAME HEISEIgMEIZIfREIWAfSYOUWAgTAISYOUoGcSUKUUDOhVcFMbOOTcUR CORNERSmGALbNMAdRONeBbHZcIGAcNIId",
  "RUDAAgPAcURAMUaTONiYcHAaITUeEKUTAARUhRUTUfGbIRAGANA HOKAmONbONbRUePaAcUARADDOgIITOeRANeZcIMAGE",
  " OFa OR EQUAL TOiNOT EQUAL TOxNaINGUeTIdUcK OHMeAaIRIdRATTOeORIIgBbCALdEESUeGbHZcIROaGURAMUgME",
  "ETORUhWATTOiKbLbMa CAPITALgUBEDfSQUAREDjOOPOdRUNAfPAcTbUROONEeUZEIROiVbWbYURIIgLEFT OPEN BOX O",
  "PERATORvMbNbOGbZENGEgXcM CUBEDfOHMcVER Sa SQUAREDoSQUAREDiAaHHAdIKUROeRUdNSYONfRUKUfBa SMALLhE",
  "ETORUfGAaTONgGbHZcIKURONfLbRIaBAARUiLbMa CUBEDfSQUAREDjOLcPAcSbU AbFbGbLbMbSbVbWdVa MEGAgWa ME",
  "GAhNAaNOdFbMbOTTOeSbVbWcONSUdOMUdRIGINAL OFa OR EQUAL TOiNOT EQUAL TO+aVcPAa AMPSfASENTOfTUeCb",
  "EEZIdNIHIdSUdSOdFbHbIASUTORUhKObURUfMbOINTOeNDOdSITION INDICATORrPMcRbSbVbWcRADa OVER Sa SQUAR",
  "EDrEMUcNTOGENhIGHT OPEN BOX OPERATORvRAcTTORUgOOTdUPIIdUBURUhSAIKURUfNTIIMUhENTIbOeIRINGUgRbVc",
  "TARGETfHZcONdUONdV OVER MiWATTOeBbITH BOTTOM HALF BLACKrCONTOURED OUTLINErDIAGONAL CROSSHATCH ",
  "FILLyHORIZONTAL FILLpLEFT HALF BLACKoOWER LEFT DIAGONAL HALF BLACKyRIGHT DIAGONAL HALF BLACK+f",
  "ORTHOGONAL CROSSHATCH FILL+aRIGHT HALF BLACKqTOP HALF BLACKoUPPER LEFT DIAGONAL HALF BLACKtTO ",
  "LOWER RIGHT FILLyRIGHT DIAGONAL HALF BLACKtTO LOWER LEFT FILL+eVERTICAL FILLsYAADOcRUeUANfD AS",
  "TERISKiCJK UNIFIED IDEOGRAPH-4E00b9c2Dc8CcA4e518Dd21Dc4Dc72d3CCcF3d408c39d5B6d8F0d91Ac29dB57dD",
  "E6dF8Ce624Bc53c95d307c55d599cB0d620d708b9dE80dF14e7121d51Fc33d981dA7AdD42e89E3dCA9dD70e904Ad14",
  "DzLbOOLeDOT OPERATORmEIGHT KhFALLING DIAGONAL SLASHvIVE POINT ONEnOUR DOT PUNCTUATIONpKfREEeHC",
  "bDRcI-RESfVcIDcKATAKANA DEcKOKOeSAkEYdLATIN CAPITAL LETTER AbBbCbDbEbFbGbHbIbJbKbLbMbNbObPbQbR",
  "bSbTbUbVbWbXbYbZqSMALL LETTER DtOGICAL ANDdORiSSLESSiMINUSeVcNEWcGcOKbNE HUNDRED TWENTY PuPLUS",
  "dPVdRISING DIAGONAL SLASHvSALTIREgDbECOND SCREENlVEN POINT ONEoHVcIXTY PgMALL CIRCLElOScQUAREf",
  "ScTHREE DgIMESeWENTY-TWO POINT TWOsO KfUHDcP WITH EXCLAMATION MARKyVODcScWCgT BLACK RIGHTWARDS",
  " ARROWzIDeS2b3bAcTaADIUMeFF OF AESCULAPIUSlHERMESmMPED ENVELOPEnNDING PERSONmR AND CRESCENTmEQ",
  "UALSgOF DAVIDhPERATORiWITH LEFT HALF BLACKpRIGHT HALF BLACKwT OF GUARDED AREAmHEADINGhPROTECTE",
  "D AREAoSELECTED AREAmTRINGgTEXTkTIONdUE OF LIBERTYpEAM LOCOMOTIVElING BOWLkNOGRAPHIC FULL STOP",
  "tTHOSCOPEjICK FIGUREa LEANING LEFTeRIGHTnWITH ARMS RAISEDlDRESSvOCK CHARTiPWATCHhRAIGHT RULERg",
  "NESSiWBERRYhESS OUTLINED WHITE STARxICTLY EQUIVALENT TOsNG TERMINATORpSbUDIO MICROPHONEoFFED F",
  "LATBREADoPAdXcUBaSCRIPT EIGHTeQUALS SIGNlFIVEdOUReLEFT PARENTHESISqMINUSfNINEeONEdPLUS SIGNjRI",
  "GHT PARENTHESISrSEVENeIXdTHREEeWOdZEROkET ABOVE RIGHTWARDS ARROWqSUBSETePERSEToOFa ABOVE ALMOS",
  "T EQUAL TOpEQUALS SIGNlNOT EQUAL TOmTILDE OPERATORuOR EQUAL TOa WITH DOT ABOVE+aWITH NOT EQUAL",
  " TOuWITH DOTdMULTIPLICATION SIGN BELOWzPLUS SIGN BELOWxTITUTEiCCEEDSa ABOVE ALMOST EQUAL TOpEQ",
  "UALS SIGNlNOT ALMOST EQUAL TOpEQUAL TOmSINGLE-LINE EQUALS SIGNlNOT EQUAL TO+eBUT NOT EQUIVALEN",
  "T TOvOR EQUAL TOfIVALENT TOqUNDER RELATIONvMMATION BOTTOMgTOPdWITH INTEGRALvNa BEHIND CLOUDmWI",
  "TH FACEkDANESE AVAGRAHAiCONSONANT SIGN PAMINGKALhNYAKRAeIKUfSANGAN MAcWA+aDIGIT EIGHTfFIVEdOUR",
  "eNINEeONEdSEVENeIXdTHREEeWOdZEROkLETTER AaEcBAbHAdCAcDAcEaUcFAbINAL KbMhGAcHAcIbJAcKAbHAdLAbEU",
  "dMAcNAbGAcYAdObPAcQAcRAbEUdSAbYAdTAcUbVAcWAcXAcYAcZAjPUNCTUATION BINDU BA SATANGAkCAKRAfDA SAT",
  "ANGAkKA SATANGAkLEU SATANGAlPANGLONGhURNAMAhSURYAxSIGN PAMAAEHfNGLAYARfWISADgYECEKiVIRAMAlVOWE",
  "L SIGN PAMEPETfNAELAENGhEULEUNGhGHULUfOLONGfYUKUzFLOWERgRISEa OVER MOUNTAINStSET OVER BUILDING",
  "StPERHEROeSCRIPT EIGHTeQUALS SIGNlFIVEdOUReLATIN SMALL LETTER IbNtEFT PARENTHESISqMINUSfNINEeO",
  "NEdPLUS SIGNjRIGHT PARENTHESISrSEVENeIXdTHREEeWOdZEROkET ABOVE LEFTWARDS ARROWpSUBSETePERSEToB",
  "ESIDE AND JOINED BY DASH WITH SUBSET+eSUBSETnOFa ABOVE ALMOST EQUAL TOpEQUALS SIGNlNOT EQUAL T",
  "OmTILDE OPERATORuOR EQUAL TOa WITH DOT ABOVE+aWITH NOT EQUAL TOuPRECEDING SOLIDUSrWITH DOTdMUL",
  "TIPLICATION SIGN BELOWzPLUS SIGN BELOWyVILLAINkRFACE INTEGRALmEReSHIcPENSION RAILWAYrWANbSH AM",
  "PERSAND ORNAMENTwIMMERfUNG DASHjYLOTI NAGRI LETTER AbBHOcOcCHOcOcDDHOcOcHOcOcEbGHOcOcHOcIbJHOc",
  "OcKHOcOcLOcMOcNOcObPHOcOcRObROdSOcTHOcObTHOcOdUiPOETRY MARK-1b2b3b4nSIGN ALTERNATE HASANTAqNUS",
  "VARAiDVISVARAiHASANTAmVOWEL SIGN AbEbIbOOcUxMBOL FOR ACKNOWLEDGElBACKSPACEiELLeCANCELeRRIAGE R",
  "ETURNpDATA LINK ESCAPEpELETEa FORM TWOnVICE CONTROL FOUReONEdTHREEeWOsEND OF MEDIUMgTEXTdRANSM",
  "ISSIONa BLOCKxQUIRYgSCAPEgFILE SEPARATORnORM FEEDjGROUP SEPARATORpHORIZONTAL TABULATIONvLINE F",
  "EEDjMARKS CHAPTERnNEGATIVE ACKNOWLEDGEsWLINEgULLeRECORD SEPARATORqSAMARITAN SOURCEpHIFT INcOUT",
  "iPACEeTART OF HEADINGhTEXTmUBSTITUTEa FORM TWOsYNCHRONOUS IDLEqTYPE A ELECTRONICSsUNIT SEPARAT",
  "ORoVERTICAL TABULATION+bMETRYgNaAGOGUEgCHRONOUS IDLEoRIAC ABBREVIATION MARKrBARREKHhCOLON SKEW",
  "ED LEFTeRIGHTqNTRACTIONlDOTTED ZLAMA ANGULARhHORIZONTALxEND OF PARAGRAPHpSASA ABOVEfBELOWlFEMI",
  "NINE DOTmHARKLEAN ASTERISCUSkMETOBELUSjOBELUSoBASA ABOVEfBELOWg-ESASA DOTTEDrORIZONTAL COLONqL",
  "ETTER ALAPHfBETHeDALATHfOTLESS DALATH RISHtEbFINAL SEMKATHnGAMALa GARSHUNIoHEaTHeKAPHeLAMADHgM",
  "ALAYALAM BHAdJAcLLAbLAeNGAcNAbNAdYAdRAcSSAdTTAmIMdNUNdPEaRSIAN BHETHfDHALATHhGHAMALoQAPHeREVER",
  "SED PEkISHeSADHEeEMKATHgHINdOGDIAN FEcKHAPHfZHAINmUPERSCRIPT ALAPHrTAWcETHa GARSHUNInWAWdYUDHa",
  " HEhZAINlMUSICfOBLIQUE LINE ABOVEfBELOWsPTHAHA ABOVEfBELOWfDOTTEDnQUSHSHAYAjRBASA ABOVEfBELOWk",
  "UKKAKHAhWAHAfSUBLINEAR COLONa SKEWED LEFTeRIGHTsFULL STOPrPRALINEAR COLONa SKEWED LEFTrFULL ST",
  "OPvTHREE DOTS ABOVEfBELOWpWO VERTICAL DOTS ABOVEfBELOWxZQAPHA ABOVEfBELOWfDOTTEDqNGE"]

end SchemaPress.Text.CharacterName
